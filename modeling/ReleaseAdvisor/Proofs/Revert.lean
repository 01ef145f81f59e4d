import Mathlib.Data.List.Basic
import ReleaseAdvisor.Commit.Revert
import ReleaseAdvisor.Proofs.Outcome

/-!
What taking out reverts comes to. The commits that drop out fall into pairs of a revert and its
target, no commit being in two of them; of those that stay none reverts another, and so going over
them once more changes nothing.
-/

namespace ReleaseAdvisor

open Outcome

namespace Commit

/-- The hash is a text, and what the commit says about the one it reverts is, unless it counts as
nothing, a mapping in which a hash is a text or counts as nothing. -/
structure IsComparable (c : Commit) : Prop where
  hash : ∃ hash, c.hash = .text hash
  revert : c.revert.truthy = true → ∃ entries, c.revert = .mapping entries ∧
    ∀ entry ∈ entries, entry.1.same (.text "hash") = true → entry.2.truthy = true →
      ∃ hash, entry.2 = .text hash

theorem agrees_returns (commit : Commit) (entries : Entries)
    (hash : ∃ hash, commit.hash = .text hash)
    (hashes : ∀ entry ∈ entries, entry.1.same (.text "hash") = true → entry.2.truthy = true →
      ∃ hash, entry.2 = .text hash) :
    ∃ answer, commit.agrees entries = .ok answer := by
  induction entries with
  | nil => exact ⟨true, rfl⟩
  | cons entry entries ih =>
      obtain ⟨name, expected⟩ := entry
      obtain ⟨later, rest⟩ := ih fun entry member => hashes entry (List.mem_cons_of_mem _ member)
      by_cases full : expected.truthy = true
      · by_cases named : name.same (.text "hash") = true
        · obtain ⟨wanted, rfl⟩ := hashes (name, expected) List.mem_cons_self named full
          obtain ⟨own, known⟩ := hash
          have compared : ∃ same, sameHash commit.hash (.text wanted) = .ok same := by
            rw [known, sameHash]
            split
            · exact ⟨_, rfl⟩
            · exact ⟨_, rfl⟩
          obtain ⟨same, compared⟩ := compared
          cases same with
          | false => exact ⟨false, by simp only [agrees, full, named, compared]; rfl⟩
          | true => exact ⟨later, by simp only [agrees, full, named, compared]; exact rest⟩
        · by_cases same : (commit.get name).same expected = true
          · exact ⟨later, by simp only [agrees, full, named, same]; exact rest⟩
          · exact ⟨false, by simp [agrees, full, named, same]⟩
      · exact ⟨later, by simp only [agrees, full]; exact rest⟩

theorem isDescribedBy_returns (commit revert : Commit) (first : commit.IsComparable)
    (second : revert.IsComparable) : ∃ answer, commit.isDescribedBy revert = .ok answer := by
  by_cases said : revert.revert.truthy = true
  · obtain ⟨entries, mapping, hashes⟩ := second.revert said
    obtain ⟨answer, agreed⟩ := commit.agrees_returns entries first.hash hashes
    exact ⟨answer, by simp only [isDescribedBy, said]; rw [mapping]; exact agreed⟩
  · exact ⟨false, by simp [isDescribedBy, said]⟩

theorem isDescribedBy_of_silent (commit revert : Commit) (silent : revert.revert.truthy = false) :
    commit.isDescribedBy revert = .ok false := by
  simp [isDescribedBy, silent]

end Commit

structure RevertPair where
  revert : Marked
  target : Marked
  reverts : target.isRevertedBy revert = .ok true

namespace RevertPair

def marks (pair : RevertPair) : List Nat := [pair.target.mark, pair.revert.mark]

end RevertPair

namespace Marked

theorem isRevertedBy_of_silent (c revert : Marked) (silent : revert.commit.revert.truthy = false) :
    c.isRevertedBy revert = .ok false := by
  rw [isRevertedBy, Commit.isDescribedBy_of_silent _ _ silent, ite_self]

theorem isRevertedBy_returns (c revert : Marked) (first : c.commit.IsComparable)
    (second : revert.commit.IsComparable) : ∃ answer, c.isRevertedBy revert = .ok answer := by
  by_cases same : c.mark = revert.mark
  · exact ⟨false, by simp [isRevertedBy, same]⟩
  · rw [isRevertedBy, if_neg same]
    exact Commit.isDescribedBy_returns _ _ first second

theorem mark_ne_of_reverts {c revert : Marked} (reverts : c.isRevertedBy revert = .ok true) :
    c.mark ≠ revert.mark := by
  intro same
  rw [isRevertedBy, if_pos same] at reverts
  cases reverts

section Target

variable {removed : List Nat} {revert : Marked} {commits : List Marked}

theorem target?_some {c : Marked} (found : target? removed revert commits = .ok (some c)) :
    c ∈ commits ∧ c.mark ∉ removed ∧ c.isRevertedBy revert = .ok true := by
  induction commits with
  | nil => cases found
  | cons first commits ih =>
      rw [target?] at found
      split at found
      · obtain ⟨member, rest⟩ := ih found
        exact ⟨List.mem_cons_of_mem _ member, rest⟩
      · rename_i stays
        obtain ⟨answer, compared, found⟩ := bind_eq_ok.mp found
        cases answer with
        | false =>
            obtain ⟨member, rest⟩ := ih found
            exact ⟨List.mem_cons_of_mem _ member, rest⟩
        | true =>
            cases found
            exact ⟨List.mem_cons_self, by simpa using stays, compared⟩

theorem target?_none (found : target? removed revert commits = .ok none) :
    ∀ c ∈ commits, c.mark ∉ removed → c.isRevertedBy revert = .ok false := by
  induction commits with
  | nil =>
      intro c member
      cases member
  | cons first commits ih =>
      rw [target?] at found
      split at found
      · rename_i gone
        intro c member stays
        rcases List.mem_cons.mp member with rfl | member
        · exact absurd (List.contains_iff_mem.mp gone) stays
        · exact ih found c member stays
      · obtain ⟨answer, compared, found⟩ := bind_eq_ok.mp found
        cases answer with
        | true => cases found
        | false =>
            intro c member stays
            rcases List.mem_cons.mp member with rfl | member
            · exact compared
            · exact ih found c member stays

theorem target?_of_unrelated (apart : ∀ c ∈ commits, c.isRevertedBy revert = .ok false) :
    target? removed revert commits = .ok none := by
  induction commits with
  | nil => rfl
  | cons first commits ih =>
      have rest := ih fun c member => apart c (List.mem_cons_of_mem _ member)
      rw [target?, apart first List.mem_cons_self, rest]
      split
      · rfl
      · rfl

theorem target?_returns (defined : ∀ c ∈ commits, ∃ answer, c.isRevertedBy revert = .ok answer) :
    ∃ found, target? removed revert commits = .ok found := by
  induction commits with
  | nil => exact ⟨none, rfl⟩
  | cons first commits ih =>
      obtain ⟨found, rest⟩ := ih fun c member => defined c (List.mem_cons_of_mem _ member)
      obtain ⟨answer, compared⟩ := defined first List.mem_cons_self
      rw [target?, compared]
      split
      · exact ⟨found, rest⟩
      · cases answer with
        | false => exact ⟨found, rest⟩
        | true => exact ⟨some first, rfl⟩

end Target

def removeOne (commits : List Marked) (removed : List Nat) (revert : Marked) :
    Except Failure (List Nat) :=
  if !revert.commit.revert.truthy || removed.contains revert.mark then .ok removed
  else (target? removed revert commits).map fun
    | some c => c.mark :: revert.mark :: removed
    | none => removed

theorem removeAll_cons (commits rest : List Marked) (revert : Marked) (removed : List Nat) :
    removeAll commits (revert :: rest) removed =
      removeOne commits removed revert >>= removeAll commits rest := by
  rw [removeAll, removeOne]
  split
  · rfl
  · cases target? removed revert commits with
    | error failure => rfl
    | ok found => cases found <;> rfl

section Turn

variable {commits : List Marked} {removed next : List Nat} {revert : Marked}

theorem removeOne_cases (done : removeOne commits removed revert = .ok next) :
    (next = removed ∧ (revert.mark ∈ removed ∨
      ∀ c ∈ commits, c.mark ∉ removed → c.isRevertedBy revert = .ok false)) ∨
    (∃ c ∈ commits, c.mark ∉ removed ∧ revert.mark ∉ removed ∧
      c.isRevertedBy revert = .ok true ∧ next = c.mark :: revert.mark :: removed) := by
  unfold removeOne at done
  split at done
  · rename_i idle
    cases done
    refine .inl ⟨rfl, ?_⟩
    rcases Bool.or_eq_true _ _ ▸ idle with silent | gone
    · refine .inr fun c _ _ => isRevertedBy_of_silent c revert ?_
      simpa using silent
    · exact .inl (List.contains_iff_mem.mp gone)
  · rename_i active
    have stays : revert.mark ∉ removed := by
      intro gone
      simp [gone] at active
    obtain ⟨found, search, result⟩ := map_eq_ok.mp done
    cases found with
    | none => exact .inl ⟨result.symm, .inr (target?_none search)⟩
    | some c =>
        obtain ⟨member, left, reverts⟩ := target?_some search
        exact .inr ⟨c, member, left, stays, reverts, result.symm⟩

theorem removeOne_grows (done : removeOne commits removed revert = .ok next) : removed ⊆ next := by
  rcases removeOne_cases done with ⟨rfl, _⟩ | ⟨c, _, _, _, _, rfl⟩
  · exact List.Subset.refl _
  · exact fun mark gone => List.mem_cons_of_mem _ (List.mem_cons_of_mem _ gone)

theorem removeOne_settles (done : removeOne commits removed revert = .ok next)
    (stays : revert.mark ∉ next) :
    ∀ c ∈ commits, c.mark ∉ next → c.isRevertedBy revert = .ok false := by
  rcases removeOne_cases done with ⟨rfl, gone | unrelated⟩ | ⟨c, _, _, _, _, rfl⟩
  · exact absurd gone stays
  · exact unrelated
  · exact absurd (List.mem_cons_of_mem _ List.mem_cons_self) stays

end Turn

/-- The marks are those of pairs of listed commits, and no mark is in two of them. -/
def IsPaired (commits : List Marked) (removed : List Nat) : Prop :=
  ∃ pairs : List RevertPair, (∀ pair ∈ pairs, pair.revert ∈ commits ∧ pair.target ∈ commits) ∧
    removed = pairs.flatMap RevertPair.marks ∧ removed.Nodup

theorem isPaired_nil (commits : List Marked) : IsPaired commits [] :=
  ⟨[], by simp, rfl, List.nodup_nil⟩

theorem IsPaired.listed {commits : List Marked} {removed : List Nat}
    (paired : IsPaired commits removed) : ∀ mark ∈ removed, mark ∈ commits.map Marked.mark := by
  obtain ⟨pairs, members, rfl, _⟩ := paired
  intro mark gone
  obtain ⟨pair, included, gone⟩ := List.mem_flatMap.mp gone
  obtain ⟨revert, target⟩ := members pair included
  simp only [RevertPair.marks, List.mem_cons, List.not_mem_nil, or_false] at gone
  rcases gone with rfl | rfl
  · exact List.mem_map_of_mem target
  · exact List.mem_map_of_mem revert

theorem removeOne_isPaired {commits : List Marked} {removed next : List Nat} {revert : Marked}
    (listed : revert ∈ commits) (paired : IsPaired commits removed)
    (done : removeOne commits removed revert = .ok next) : IsPaired commits next := by
  rcases removeOne_cases done with ⟨rfl, _⟩ | ⟨c, member, left, stays, reverts, rfl⟩
  · exact paired
  · obtain ⟨pairs, members, same, distinct⟩ := paired
    refine ⟨⟨revert, c, reverts⟩ :: pairs, ?_, ?_, ?_⟩
    · intro pair included
      rcases List.mem_cons.mp included with rfl | included
      · exact ⟨listed, member⟩
      · exact members pair included
    · rw [same]
      rfl
    · have apart := mark_ne_of_reverts reverts
      simp [left, stays, distinct, apart]

section Run

variable {commits reverts : List Marked} {removed final : List Nat}

theorem removeAll_grows (done : removeAll commits reverts removed = .ok final) :
    removed ⊆ final := by
  induction reverts generalizing removed with
  | nil =>
      cases done
      exact List.Subset.refl _
  | cons revert reverts ih =>
      rw [removeAll_cons] at done
      obtain ⟨next, turn, rest⟩ := bind_eq_ok.mp done
      exact List.Subset.trans (removeOne_grows turn) (ih rest)

theorem removeAll_isPaired (listed : ∀ revert ∈ reverts, revert ∈ commits)
    (paired : IsPaired commits removed) (done : removeAll commits reverts removed = .ok final) :
    IsPaired commits final := by
  induction reverts generalizing removed with
  | nil =>
      cases done
      exact paired
  | cons revert reverts ih =>
      rw [removeAll_cons] at done
      obtain ⟨next, turn, rest⟩ := bind_eq_ok.mp done
      have kept := removeOne_isPaired (listed revert List.mem_cons_self) paired turn
      exact ih (fun c member => listed c (List.mem_cons_of_mem _ member)) kept rest

theorem removeAll_settles (done : removeAll commits reverts removed = .ok final) :
    ∀ revert ∈ reverts, revert.mark ∉ final →
      ∀ c ∈ commits, c.mark ∉ final → c.isRevertedBy revert = .ok false := by
  induction reverts generalizing removed with
  | nil =>
      intro revert member
      cases member
  | cons first reverts ih =>
      rw [removeAll_cons] at done
      obtain ⟨next, turn, rest⟩ := bind_eq_ok.mp done
      intro revert member stays c listed left
      rcases List.mem_cons.mp member with rfl | member
      · -- Marks are never taken back, so that what a turn settles stays settled.
        have grows := removeAll_grows rest
        exact removeOne_settles turn (fun gone => stays (grows gone)) c listed
          (fun gone => left (grows gone))
      · exact ih rest revert member stays c listed left

theorem removeOne_returns {revert : Marked}
    (defined : ∀ c ∈ commits, ∃ answer, c.isRevertedBy revert = .ok answer) :
    ∃ next, removeOne commits removed revert = .ok next := by
  unfold removeOne
  split
  · exact ⟨removed, rfl⟩
  · have search : ∃ found, target? removed revert commits = .ok found := target?_returns defined
    obtain ⟨found, search⟩ := search
    rw [search]
    exact ⟨_, rfl⟩

theorem removeAll_returns
    (defined : ∀ revert ∈ reverts, ∀ c ∈ commits, ∃ answer, c.isRevertedBy revert = .ok answer) :
    ∃ final, removeAll commits reverts removed = .ok final := by
  induction reverts generalizing removed with
  | nil => exact ⟨removed, rfl⟩
  | cons revert reverts ih =>
      have turn : ∃ next, removeOne commits removed revert = .ok next :=
        removeOne_returns (defined revert List.mem_cons_self)
      obtain ⟨next, turn⟩ := turn
      have rest : ∃ final, removeAll commits reverts next = .ok final :=
        ih fun r member => defined r (List.mem_cons_of_mem _ member)
      obtain ⟨final, rest⟩ := rest
      exact ⟨final, by rw [removeAll_cons, turn]; exact rest⟩

theorem removeAll_of_unrelated
    (apart : ∀ revert ∈ reverts, ∀ c ∈ commits, c.isRevertedBy revert = .ok false) :
    removeAll commits reverts removed = .ok removed := by
  induction reverts with
  | nil => rfl
  | cons revert reverts ih =>
      have idle : removeOne commits removed revert = .ok removed := by
        rw [removeOne, target?_of_unrelated (apart revert List.mem_cons_self)]
        split
        · rfl
        · rfl
      rw [removeAll_cons, idle]
      exact ih fun r member => apart r (List.mem_cons_of_mem _ member)

end Run

theorem withoutReverted_eq_ok {commits kept : List Marked} :
    withoutReverted commits = .ok kept ↔ ∃ removed, removeAll commits commits [] = .ok removed ∧
      kept = commits.filter fun c => !removed.contains c.mark := by
  rw [withoutReverted, bind_eq_ok]
  constructor
  · rintro ⟨removed, done, same⟩
    cases same
    exact ⟨removed, done, rfl⟩
  · rintro ⟨removed, done, rfl⟩
    exact ⟨removed, done, rfl⟩

theorem withoutReverted_of_unrelated {commits : List Marked}
    (apart : ∀ c ∈ commits, ∀ revert ∈ commits, c.isRevertedBy revert = .ok false) :
    withoutReverted commits = .ok commits := by
  refine withoutReverted_eq_ok.mpr
    ⟨[], removeAll_of_unrelated fun revert listed c member => apart c member revert listed, ?_⟩
  simp

theorem withoutReverted_pair {c d : Marked}
    (first : ∃ answer, c.isRevertedBy d = .ok answer)
    (second : ∃ answer, d.isRevertedBy c = .ok answer)
    (reverts : c.isRevertedBy d = .ok true ∨ d.isRevertedBy c = .ok true) :
    withoutReverted [c, d] = .ok [] := by
  have alone : ∀ m : Marked, ∃ answer, m.isRevertedBy m = .ok answer := fun m =>
    ⟨false, by simp [isRevertedBy]⟩
  have run : ∃ removed, removeAll [c, d] [c, d] [] = .ok removed := by
    apply removeAll_returns
    simp only [List.forall_mem_cons, List.not_mem_nil, false_imp_iff, implies_true, and_true]
    exact ⟨⟨alone c, second⟩, first, alone d⟩
  obtain ⟨removed, run⟩ := run
  have settled := removeAll_settles run
  obtain ⟨pairs, members, rfl, _⟩ :=
    removeAll_isPaired (fun _ listed => listed) (isPaired_nil [c, d]) run
  refine withoutReverted_eq_ok.mpr ⟨_, run, ?_⟩
  cases pairs with
  | nil =>
      -- With no pair removed, neither of the two reverts the other.
      have apart : c.isRevertedBy d = .ok false ∧ d.isRevertedBy c = .ok false := by
        constructor <;> apply settled <;> simp
      rw [apart.1, apart.2] at reverts
      rcases reverts with reverts | reverts <;> cases reverts
  | cons pair pairs =>
      obtain ⟨revert, target⟩ := members pair List.mem_cons_self
      have differ := mark_ne_of_reverts pair.reverts
      simp only [List.mem_cons, List.not_mem_nil, or_false] at revert target
      rcases revert with same | same <;> rcases target with same' | same'
      · exact absurd (by rw [same, same']) differ
      · simp [RevertPair.marks, same, same']
      · simp [RevertPair.marks, same, same']
      · exact absurd (by rw [same, same']) differ

/-- What drops out are pairs of a revert and its target with no commit in two of them, each with
every occurrence; all else stays in its order. Of the commits that stay none reverts another, so
that going over them again changes nothing. Commits that can be compared are always gone
through. -/
theorem withoutReverted_drops_pairs (commits : List Marked) :
    (∀ kept, withoutReverted commits = .ok kept →
      (∃ pairs : List RevertPair,
        (∀ pair ∈ pairs, pair.revert ∈ commits ∧ pair.target ∈ commits) ∧
        (pairs.flatMap RevertPair.marks).Nodup ∧
        kept = commits.filter fun c => c.mark ∉ pairs.flatMap RevertPair.marks) ∧
      (∀ c ∈ kept, ∀ revert ∈ kept, c.isRevertedBy revert = .ok false) ∧
      withoutReverted kept = .ok kept) ∧
    ((∀ c ∈ commits, c.commit.IsComparable) → ∃ kept, withoutReverted commits = .ok kept) := by
  constructor
  · intro kept done
    obtain ⟨removed, run, rfl⟩ := withoutReverted_eq_ok.mp done
    have unrelated : ∀ c ∈ commits.filter fun c => !removed.contains c.mark,
        ∀ revert ∈ commits.filter fun c => !removed.contains c.mark,
          c.isRevertedBy revert = .ok false := by
      intro c left revert stays
      simp only [List.mem_filter, Bool.not_eq_true', List.contains_eq_mem,
        decide_eq_false_iff_not] at left stays
      exact removeAll_settles run revert stays.1 stays.2 c left.1 left.2
    refine ⟨?_, unrelated, withoutReverted_of_unrelated unrelated⟩
    obtain ⟨pairs, members, same, distinct⟩ :=
      removeAll_isPaired (fun _ listed => listed) (isPaired_nil commits) run
    refine ⟨pairs, members, same ▸ distinct, ?_⟩
    rw [← same]
    simp
  · intro comparable
    have run : ∃ removed, removeAll commits commits [] = .ok removed :=
      removeAll_returns fun revert listed c member =>
        isRevertedBy_returns c revert (comparable c member) (comparable revert listed)
    obtain ⟨removed, run⟩ := run
    exact ⟨_, withoutReverted_eq_ok.mpr ⟨removed, run, rfl⟩⟩

-- A revert that has taken its target is no longer there to be reverted, so its revert stays.
example :
    let telling (header : String) (reverted : Value) : Commit :=
      ⟨[(.text "header", .text header), (.text "revert", reverted)], .text ""⟩
    let describes (header : String) : Value := .mapping [(.text "header", .text header)]
    (withoutReverted [⟨0, telling "a" .null⟩, ⟨1, telling "b" (describes "a")⟩,
      ⟨2, telling "c" (describes "b")⟩]).map (List.map Marked.mark) = .ok [2] := by
  decide +kernel

end Marked
end ReleaseAdvisor
