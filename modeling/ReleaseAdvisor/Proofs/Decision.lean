import Mathlib.Tactic.SplitIfs
import ReleaseAdvisor.Release

/-!
The most severe of some decisions. It is the one of least rank among them, or no decision if there
are none; so only which decisions there are counts, not their order and not how often each occurs.
-/

namespace ReleaseAdvisor.Decision

theorem rank_injective : Function.Injective rank := by
  intro a b same
  rcases a with _ | (_ | _ | _) | _ | _ <;> rcases b with _ | (_ | _ | _) | _ | _ <;>
    first | rfl | cases same

theorem rank_le_none (d : Decision) : rank d ≤ rank none := by
  rcases d with _ | (_ | _ | _) | _ | _ <;> decide

theorem higher_cases (current candidate : Decision) :
    (higher current candidate = candidate ∧ rank candidate < rank current) ∨
      (higher current candidate = current ∧ rank current ≤ rank candidate) := by
  by_cases above : rank candidate < rank current
  · exact .inl ⟨by simp [higher, isHigher, above], above⟩
  · exact .inr ⟨by simp [higher, isHigher, above], Nat.le_of_not_lt above⟩

@[simp] theorem higher_none_left (d : Decision) : higher none d = d := by
  rcases higher_cases none d with ⟨taken, _⟩ | ⟨kept, above⟩
  · exact taken
  · rw [kept]
    exact rank_injective (Nat.le_antisymm above (rank_le_none d))

@[simp] theorem higher_major_left (d : Decision) :
    higher (some (.release .major)) d = some (.release .major) := by
  rcases higher_cases (some (.release .major)) d with ⟨_, above⟩ | ⟨kept, _⟩
  · exact absurd above (Nat.not_lt_zero _)
  · exact kept

theorem higher_assoc (a b c : Decision) : higher (higher a b) c = higher a (higher b c) := by
  simp only [higher, isHigher, decide_eq_true_eq]
  split_ifs <;> first | rfl | omega

theorem foldl_higher (best : Decision) (decisions : List Decision) :
    decisions.foldl higher best = higher best (highest decisions) := by
  induction decisions generalizing best with
  | nil =>
      rcases higher_cases best none with ⟨_, below⟩ | ⟨kept, _⟩
      · exact absurd below (Nat.not_lt_of_le (rank_le_none best))
      · exact kept.symm
  | cons d decisions ih =>
      calc
        (d :: decisions).foldl higher best = higher (higher best d) (highest decisions) := ih _
        _ = higher best (higher (higher none d) (highest decisions)) := by
          rw [higher_assoc, higher_none_left]
        _ = higher best (highest (d :: decisions)) := by
          rw [← ih (higher none d)]
          rfl

theorem highest_cons (d : Decision) (decisions : List Decision) :
    highest (d :: decisions) = higher d (highest decisions) := by
  rw [highest, List.foldl_cons, foldl_higher, higher_none_left]

theorem highest_append (first second : List Decision) :
    highest (first ++ second) = higher (highest first) (highest second) := by
  rw [highest, List.foldl_append, foldl_higher]
  rfl

theorem highest_mem (decisions : List Decision) :
    highest decisions = none ∨ highest decisions ∈ decisions := by
  induction decisions with
  | nil => exact .inl rfl
  | cons d decisions ih =>
      rw [highest_cons]
      rcases higher_cases d (highest decisions) with ⟨same, _⟩ | ⟨same, _⟩
      · rw [same]
        exact ih.imp_right (List.mem_cons_of_mem d)
      · rw [same]
        exact .inr List.mem_cons_self

theorem rank_highest_le {decisions : List Decision} {d : Decision} (listed : d ∈ decisions) :
    rank (highest decisions) ≤ rank d := by
  induction decisions with
  | nil => cases listed
  | cons first decisions ih =>
      rw [highest_cons]
      rcases higher_cases first (highest decisions) with ⟨same, above⟩ | ⟨same, above⟩ <;> rw [same]
      · rcases List.mem_cons.mp listed with rfl | later
        · exact Nat.le_of_lt above
        · exact ih later
      · rcases List.mem_cons.mp listed with rfl | later
        · exact Nat.le_refl _
        · exact Nat.le_trans above (ih later)

theorem highest_eq_of_least {decisions : List Decision} {d : Decision} (listed : d ∈ decisions)
    (least : ∀ other ∈ decisions, rank d ≤ rank other) : highest decisions = d := by
  apply rank_injective
  refine Nat.le_antisymm (rank_highest_le listed) ?_
  rcases highest_mem decisions with silent | member
  · rw [silent]
    exact rank_le_none d
  · exact least _ member

theorem highest_congr {first second : List Decision} (same : ∀ d, d ∈ first ↔ d ∈ second) :
    highest first = highest second := by
  rcases highest_mem second with silent | member
  · rcases highest_mem first with silent' | member'
    · rw [silent, silent']
    · apply rank_injective
      refine Nat.le_antisymm ?_ (rank_highest_le ((same _).mp member'))
      rw [silent]
      exact rank_le_none _
  · exact highest_eq_of_least ((same _).mpr member) fun other listed =>
      rank_highest_le ((same other).mp listed)

end ReleaseAdvisor.Decision
