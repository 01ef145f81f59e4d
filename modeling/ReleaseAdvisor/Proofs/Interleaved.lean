import Mathlib.Data.List.Basic
import ReleaseAdvisor.Proofs.Outcome

/-!
Two lists mixed into one. What goes through a list item by item, be it selecting, expanding or
computing with the risk of failure, keeps the mixture.
-/

namespace ReleaseAdvisor

open Outcome

/-- The last list has the items of the other two, those of each in their own order. -/
inductive Interleaved {α : Type} : List α → List α → List α → Prop where
  | nil : Interleaved [] [] []
  | left {item : α} {xs ys zs : List α} :
      Interleaved xs ys zs → Interleaved (item :: xs) ys (item :: zs)
  | right {item : α} {xs ys zs : List α} :
      Interleaved xs ys zs → Interleaved xs (item :: ys) (item :: zs)

namespace Interleaved

variable {α β : Type} {xs ys zs : List α}

theorem swap (mixed : Interleaved xs ys zs) : Interleaved ys xs zs := by
  induction mixed with
  | nil => exact nil
  | left _ ih => exact right ih
  | right _ ih => exact left ih

theorem perm (mixed : Interleaved xs ys zs) : zs.Perm (xs ++ ys) := by
  induction mixed with
  | nil => exact List.Perm.refl _
  | left _ ih => exact ih.cons _
  | right _ ih => exact (ih.cons _).trans List.perm_middle.symm

theorem mem_iff (mixed : Interleaved xs ys zs) {item : α} : item ∈ zs ↔ item ∈ xs ∨ item ∈ ys :=
  mixed.perm.mem_iff.trans List.mem_append

theorem append_left (added : List α) (mixed : Interleaved xs ys zs) :
    Interleaved (added ++ xs) ys (added ++ zs) := by
  induction added with
  | nil => exact mixed
  | cons item added ih => exact left ih

theorem flatMap (f : α → List β) (mixed : Interleaved xs ys zs) :
    Interleaved (xs.flatMap f) (ys.flatMap f) (zs.flatMap f) := by
  induction mixed with
  | nil => exact nil
  | left _ ih =>
      simp only [List.flatMap_cons]
      exact ih.append_left _
  | right _ ih =>
      simp only [List.flatMap_cons]
      exact (ih.swap.append_left _).swap

theorem filterMap (f : α → Option β) (mixed : Interleaved xs ys zs) :
    Interleaved (xs.filterMap f) (ys.filterMap f) (zs.filterMap f) := by
  simp only [List.filterMap_eq_flatMap_toList]
  exact mixed.flatMap _

theorem map (f : α → β) (mixed : Interleaved xs ys zs) :
    Interleaved (xs.map f) (ys.map f) (zs.map f) := by
  simp only [← List.filterMap_eq_map]
  exact mixed.filterMap _

theorem filter (p : α → Bool) (mixed : Interleaved xs ys zs) :
    Interleaved (xs.filter p) (ys.filter p) (zs.filter p) := by
  simp only [← List.filterMap_eq_filter]
  exact mixed.filterMap _

theorem mapM {ε : Type} (f : α → Except ε β) (mixed : Interleaved xs ys zs) :
    Joins Interleaved (xs.mapM f) (ys.mapM f) (zs.mapM f) := by
  induction mixed with
  | nil => exact joins_ok nil
  | @left item xs ys zs _ ih =>
      simp only [List.mapM_cons]
      refine Joins.after fun result => ?_
      rw [← bind_pure (ys.mapM f)]
      exact ih.bind fun _ _ _ _ _ mixed => joins_ok mixed.left
  | @right item xs ys zs _ ih =>
      simp only [List.mapM_cons]
      refine (Joins.after fun result => ?_).swap
      rw [← bind_pure (xs.mapM f)]
      exact ih.swap.bind fun _ _ _ _ _ mixed => joins_ok mixed.right

theorem of_map {f : α → β} {as bs : List β} {zs : List α} (mixed : Interleaved as bs (zs.map f)) :
    ∃ xs ys, xs.map f = as ∧ ys.map f = bs ∧ Interleaved xs ys zs := by
  induction zs generalizing as bs with
  | nil =>
      cases mixed
      exact ⟨[], [], rfl, rfl, nil⟩
  | cons z zs ih =>
      cases mixed with
      | left mixed =>
          obtain ⟨xs, ys, rfl, rfl, rest⟩ := ih mixed
          exact ⟨z :: xs, ys, rfl, rfl, rest.left⟩
      | right mixed =>
          obtain ⟨xs, ys, rfl, rfl, rest⟩ := ih mixed
          exact ⟨xs, z :: ys, rfl, rfl, rest.right⟩

end Interleaved
end ReleaseAdvisor
