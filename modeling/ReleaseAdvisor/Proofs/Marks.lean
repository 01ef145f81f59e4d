import Mathlib.Data.Set.Function
import ReleaseAdvisor.Proofs.Revert

/-!
Marks. All that they do is tell commits from one another: under other marks the same commits drop
out.
-/

namespace ReleaseAdvisor

open Outcome

def Marked.numberFrom (mark : Nat) : List Commit → List Marked
  | [] => []
  | c :: commits => ⟨mark, c⟩ :: numberFrom (mark + 1) commits

def Commit.unreverted (commits : List Commit) : Except Failure (List Commit) :=
  (Marked.withoutReverted (Marked.numberFrom 0 commits)).map (List.map Marked.commit)

namespace Marked

def remark (f : Nat → Nat) (c : Marked) : Marked := ⟨f c.mark, c.commit⟩

section Remark

variable {f : Nat → Nat} {commits : List Marked} {removed : List Nat} {revert : Marked}
  (injective : Set.InjOn f {mark | mark ∈ commits.map Marked.mark})

include injective

theorem contains_remark (paired : IsPaired commits removed) {c : Marked} (listed : c ∈ commits) :
    (removed.map f).contains (c.remark f).mark = removed.contains c.mark := by
  rw [Bool.eq_iff_iff, List.contains_iff_mem, List.contains_iff_mem, List.mem_map]
  constructor
  · rintro ⟨mark, gone, same⟩
    rw [← injective (paired.listed mark gone) (List.mem_map_of_mem listed) same]
    exact gone
  · intro gone
    exact ⟨c.mark, gone, rfl⟩

theorem isRevertedBy_remark {c : Marked} (listed : c ∈ commits) (among : revert ∈ commits) :
    (c.remark f).isRevertedBy (revert.remark f) = c.isRevertedBy revert := by
  have same : f c.mark = f revert.mark ↔ c.mark = revert.mark :=
    ⟨fun same => injective (List.mem_map_of_mem listed) (List.mem_map_of_mem among) same,
      congrArg f⟩
  simp only [isRevertedBy, remark, same]

theorem target?_remark (paired : IsPaired commits removed) (among : revert ∈ commits)
    {part : List Marked} (within : part ⊆ commits) :
    target? (removed.map f) (revert.remark f) (part.map (remark f)) =
      (target? removed revert part).map (Option.map (remark f)) := by
  induction part with
  | nil => rfl
  | cons c part ih =>
      have listed : c ∈ commits := within List.mem_cons_self
      have rest := ih fun _ member => within (List.mem_cons_of_mem _ member)
      rw [List.map_cons, target?, target?, contains_remark injective paired listed,
        isRevertedBy_remark injective listed among]
      split
      · exact rest
      · cases c.isRevertedBy revert with
        | error failure => rfl
        | ok answer =>
            cases answer with
            | false => exact rest
            | true => rfl

theorem removeOne_remark (paired : IsPaired commits removed) (among : revert ∈ commits) :
    removeOne (commits.map (remark f)) (removed.map f) (revert.remark f) =
      (removeOne commits removed revert).map (List.map f) := by
  rw [removeOne, removeOne, contains_remark injective paired among,
    target?_remark injective paired among (List.Subset.refl _)]
  change (if !revert.commit.revert.truthy || _ then _ else _) = _
  split
  · rfl
  · cases target? removed revert commits with
    | error failure => rfl
    | ok found =>
        cases found with
        | none => rfl
        | some c => rfl

theorem removeAll_remark (paired : IsPaired commits removed) {reverts : List Marked}
    (within : reverts ⊆ commits) :
    removeAll (commits.map (remark f)) (reverts.map (remark f)) (removed.map f) =
      (removeAll commits reverts removed).map (List.map f) := by
  induction reverts generalizing removed with
  | nil => rfl
  | cons revert reverts ih =>
      have among : revert ∈ commits := within List.mem_cons_self
      rw [List.map_cons, removeAll_cons, removeAll_cons, removeOne_remark injective paired among]
      cases turn : removeOne commits removed revert with
      | error failure => rfl
      | ok next =>
          have kept := removeOne_isPaired among paired turn
          exact ih kept fun _ member => within (List.mem_cons_of_mem _ member)

theorem withoutReverted_remark :
    withoutReverted (commits.map (remark f)) =
      (withoutReverted commits).map (List.map (remark f)) := by
  have start := isPaired_nil commits
  have run := removeAll_remark injective start (List.Subset.refl commits)
  rw [List.map_nil] at run
  rw [withoutReverted, withoutReverted, run]
  cases done : removeAll commits commits [] with
  | error failure => rfl
  | ok removed =>
      have paired := removeAll_isPaired (fun _ listed => listed) start done
      have same : ∀ c ∈ commits, (!(removed.map f).contains (c.remark f).mark) =
          !removed.contains c.mark := by
        intro c listed
        rw [contains_remark injective paired listed]
      change Except.ok ((commits.map (remark f)).filter _) = Except.ok _
      rw [List.filter_map, ← List.filter_congr same]
      rfl

end Remark

theorem numberFrom_commit (mark : Nat) (commits : List Commit) :
    (numberFrom mark commits).map Marked.commit = commits := by
  induction commits generalizing mark with
  | nil => rfl
  | cons c commits ih => rw [numberFrom, List.map_cons, ih]

theorem numberFrom_mark (mark : Nat) (commits : List Commit) :
    (numberFrom mark commits).map Marked.mark = List.range' mark commits.length := by
  induction commits generalizing mark with
  | nil => rfl
  | cons c commits ih => rw [numberFrom, List.map_cons, ih, List.length_cons, List.range'_succ]

theorem eq_of_marks_of_commits {first second : List Marked}
    (marks : first.map Marked.mark = second.map Marked.mark)
    (commits : first.map Marked.commit = second.map Marked.commit) : first = second := by
  induction first generalizing second with
  | nil =>
      rw [List.map_nil, eq_comm, List.map_eq_nil_iff] at marks
      exact marks.symm
  | cons c first ih =>
      cases second with
      | nil => cases marks
      | cons d second =>
          obtain ⟨mark, commit⟩ := c
          obtain ⟨mark', commit'⟩ := d
          simp only [List.map_cons, List.cons.injEq] at marks commits
          rw [marks.1, commits.1, ih marks.2 commits.2]

theorem numberFrom_eq_remark {commits : List Marked}
    (distinct : (commits.map Marked.mark).Nodup) :
    numberFrom 0 (commits.map Marked.commit) =
      commits.map (remark fun mark => (commits.map Marked.mark).idxOf mark) := by
  apply eq_of_marks_of_commits
  · rw [numberFrom_mark]
    apply List.ext_getElem
    · simp
    · intro place _ within
      have found := distinct.idxOf_getElem place (by simpa using within)
      simpa [remark] using found.symm
  · rw [numberFrom_commit, List.map_map]
    rfl

theorem withoutReverted_commit {commits : List Marked}
    (distinct : (commits.map Marked.mark).Nodup) :
    (withoutReverted commits).map (List.map Marked.commit) =
      Commit.unreverted (commits.map Marked.commit) := by
  have injective : Set.InjOn (fun mark => (commits.map Marked.mark).idxOf mark)
      {mark | mark ∈ commits.map Marked.mark} :=
    fun _ listed _ _ same => (List.idxOf_inj listed).mp same
  rw [Commit.unreverted, numberFrom_eq_remark distinct, withoutReverted_remark injective]
  cases withoutReverted commits with
  | error failure => rfl
  | ok kept => simp [Except.map, remark]

end Marked
end ReleaseAdvisor
