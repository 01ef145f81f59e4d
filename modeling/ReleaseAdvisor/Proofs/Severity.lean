import Mathlib.Data.List.MinMax
import ReleaseAdvisor.Release

/-!
The most severe of some releases. Going through them with the best one so far comes to the same, in
whatever order and however they are grouped.
-/

namespace ReleaseAdvisor.Release

theorem rank_eq_idxOf (r : Release) : r.rank = all.idxOf r := by
  cases r <;> rfl

theorem rank_injective : Function.Injective rank := by
  intro a b same
  cases a <;> cases b <;> first | rfl | cases same

def mostSevere (releases : List Release) : Option Release := releases.argmin rank

theorem mostSevere_eq_none_iff {releases : List Release} :
    mostSevere releases = none ↔ releases = [] :=
  List.argmin_eq_none

theorem mostSevere_eq_some_iff {releases : List Release} {r : Release} :
    mostSevere releases = some r ↔ r ∈ releases ∧ ∀ other ∈ releases, r.rank ≤ other.rank := by
  constructor
  · intro best
    exact ⟨List.argmin_mem best, fun other member => List.le_of_mem_argmin member best⟩
  · rintro ⟨member, least⟩
    cases best : mostSevere releases with
    | none =>
        rw [mostSevere_eq_none_iff.mp best] at member
        cases member
    | some other =>
        have below : other.rank ≤ r.rank := List.le_of_mem_argmin member best
        have above := least other (List.argmin_mem best)
        rw [rank_injective (Nat.le_antisymm below above)]

def moreSevere : Option Release → Option Release → Option Release
  | none, b => b
  | some a, none => some a
  | some a, some b => some (if b.rank < a.rank then b else a)

@[simp] theorem moreSevere_none_left (b : Option Release) : moreSevere none b = b := rfl

@[simp] theorem moreSevere_none_right (a : Option Release) : moreSevere a none = a := by
  cases a <;> rfl

theorem moreSevere_comm (a b : Option Release) : moreSevere a b = moreSevere b a := by
  cases a with
  | none => simp
  | some a =>
      cases b with
      | none => simp
      | some b =>
          rcases Nat.lt_trichotomy a.rank b.rank with less | same | more
          · simp [moreSevere, less, Nat.not_lt_of_gt less]
          · rw [rank_injective same]
          · simp [moreSevere, more, Nat.not_lt_of_gt more]

theorem moreSevere_assoc (a b c : Option Release) :
    moreSevere (moreSevere a b) c = moreSevere a (moreSevere b c) := by
  rcases a with _ | a
  · simp
  rcases b with _ | b
  · simp
  rcases c with _ | c
  · simp
  simp only [moreSevere, Option.some.injEq]
  split_ifs <;> first | rfl | omega

theorem moreSevere_major (b : Option Release) : moreSevere (some .major) b = some .major := by
  cases b with
  | none => rfl
  | some b => simp [moreSevere, rank]

theorem mostSevere_cons (r : Release) (releases : List Release) :
    mostSevere (r :: releases) = moreSevere (some r) (mostSevere releases) := by
  rw [mostSevere, List.argmin_cons, mostSevere]
  cases List.argmin rank releases with
  | none => rfl
  | some best =>
      simp only [moreSevere]
      split
      · rfl
      · rfl

theorem mostSevere_perm {releases others : List Release} (perm : releases.Perm others) :
    mostSevere releases = mostSevere others := by
  induction perm with
  | nil => rfl
  | cons r _ ih => rw [mostSevere_cons, mostSevere_cons, ih]
  | swap a b releases =>
      simp only [mostSevere_cons]
      rw [← moreSevere_assoc, ← moreSevere_assoc, moreSevere_comm (some b) (some a)]
  | trans _ _ first second => exact first.trans second

theorem moreSevere_covers_left {p : Release} {a : Option Release} (b : Option Release)
    (best : a = some p) : ∃ q, moreSevere a b = some q ∧ q.rank ≤ p.rank := by
  subst best
  cases b with
  | none => exact ⟨p, rfl, le_refl _⟩
  | some b =>
      refine ⟨_, rfl, ?_⟩
      split
      · rename_i above
        exact Nat.le_of_lt above
      · exact le_refl _

end ReleaseAdvisor.Release
