import Mathlib.Data.List.Nodup
import Mathlib.Data.List.Perm.Basic
import ReleaseAdvisor.Proofs.Mixture
import ReleaseAdvisor.Proofs.Parts
import ReleaseAdvisor.Proofs.Squash.Blocks

/-!
Commits in another order. What a revert takes out depends on the order only where there is a choice.
If every commit reverts, or is reverted by, at most one other, then those that do drop out, in
whatever order they come, and the release stays the same.
-/

namespace ReleaseAdvisor

open Outcome

namespace Marked

def Related (c d : Marked) : Prop := c.isRevertedBy d = .ok true ∨ d.isRevertedBy c = .ok true

instance (c d : Marked) : Decidable (c.Related d) := inferInstanceAs (Decidable (_ ∨ _))

theorem Related.symm {c d : Marked} (related : c.Related d) : d.Related c := Or.symm related

/-- No commit is in two pairs: it reverts, or is reverted by, at most one other. -/
def IsMatching (commits : List Marked) : Prop :=
  ∀ c ∈ commits, ∀ d ∈ commits, ∀ e ∈ commits, c.Related d → c.Related e → d.mark = e.mark

instance (commits : List Marked) : Decidable (IsMatching commits) :=
  inferInstanceAs (Decidable (∀ _ ∈ _, ∀ _ ∈ _, ∀ _ ∈ _, _ → _ → _))

theorem IsMatching.perm {commits others : List Marked} (matching : IsMatching commits)
    (perm : commits.Perm others) : IsMatching others := by
  intro c inC d inD e inE
  exact matching c (perm.mem_iff.mpr inC) d (perm.mem_iff.mpr inD) e (perm.mem_iff.mpr inE)

section Matching

variable {commits : List Marked} {removed : List Nat}
  (distinct : (commits.map Marked.mark).Nodup)

include distinct

theorem IsPaired.partner (paired : IsPaired commits removed) {c : Marked} (listed : c ∈ commits)
    (gone : c.mark ∈ removed) : ∃ d ∈ commits, d.mark ∈ removed ∧ c.Related d := by
  obtain ⟨pairs, members, rfl, _⟩ := paired
  obtain ⟨pair, included, gone⟩ := List.mem_flatMap.mp gone
  obtain ⟨revert, target⟩ := members pair included
  have both : ∀ mark ∈ pair.marks, mark ∈ pairs.flatMap RevertPair.marks := fun mark member =>
    List.mem_flatMap.mpr ⟨pair, included, member⟩
  have single := List.inj_on_of_nodup_map distinct
  simp only [RevertPair.marks, List.mem_cons, List.not_mem_nil, or_false] at gone
  rcases gone with same | same
  · rw [single listed target same]
    exact ⟨pair.revert, revert, both _ (by simp [RevertPair.marks]), .inl pair.reverts⟩
  · rw [single listed revert same]
    exact ⟨pair.target, target, both _ (by simp [RevertPair.marks]), .inr pair.reverts⟩

theorem IsMatching.mem_removed_iff (matching : IsMatching commits)
    (done : removeAll commits commits [] = .ok removed) {c : Marked} (listed : c ∈ commits) :
    c.mark ∈ removed ↔ ∃ d ∈ commits, c.Related d := by
  have paired := removeAll_isPaired (fun _ listed => listed) (isPaired_nil commits) done
  constructor
  · intro gone
    obtain ⟨d, member, _, related⟩ := paired.partner distinct listed gone
    exact ⟨d, member, related⟩
  · rintro ⟨d, member, related⟩
    cases Decidable.em (c.mark ∈ removed) with
    | inl gone => exact gone
    | inr stays =>
        -- The only partner would have to stay as well, and of two that stay none reverts the other.
        have left : d.mark ∉ removed := by
          intro gone
          obtain ⟨e, other, went, related'⟩ := paired.partner distinct member gone
          rw [matching d member e other c listed related' related.symm] at went
          exact stays went
        rcases related with reverts | reverts
        · rw [removeAll_settles done d member left c listed stays] at reverts
          cases reverts
        · rw [removeAll_settles done c listed stays d member left] at reverts
          cases reverts

theorem IsMatching.kept_eq (matching : IsMatching commits) {kept : List Marked}
    (done : withoutReverted commits = .ok kept) :
    kept = commits.filter fun c => !decide (∃ d ∈ commits, c.Related d) := by
  obtain ⟨removed, run, rfl⟩ := withoutReverted_eq_ok.mp done
  refine List.filter_congr fun c listed => congrArg not ?_
  rw [Bool.eq_iff_iff, List.contains_iff_mem, decide_eq_true_iff]
  exact matching.mem_removed_iff distinct run listed

theorem IsMatching.withoutReverted_perm (matching : IsMatching commits) {others : List Marked}
    (perm : commits.Perm others) {kept left : List Marked}
    (first : withoutReverted commits = .ok kept) (second : withoutReverted others = .ok left) :
    kept.Perm left := by
  have distinct' : (others.map Marked.mark).Nodup := (perm.map Marked.mark).nodup_iff.mp distinct
  have same : ∀ c : Marked, (∃ d ∈ commits, c.Related d) ↔ ∃ d ∈ others, c.Related d := by
    intro c
    simp only [perm.mem_iff]
  rw [matching.kept_eq distinct first, (matching.perm perm).kept_eq distinct' second]
  simp only [same]
  exact perm.filter _

end Matching

theorem withoutReverted_returns {commits : List Marked}
    (comparable : ∀ c ∈ commits, c.commit.IsComparable) :
    ∃ kept, withoutReverted commits = .ok kept := by
  have run : ∃ removed, removeAll commits commits [] = .ok removed :=
    removeAll_returns fun revert listed c member =>
      isRevertedBy_returns c revert (comparable c member) (comparable revert listed)
  obtain ⟨removed, run⟩ := run
  exact ⟨_, withoutReverted_eq_ok.mpr ⟨removed, run, rfl⟩⟩

theorem exists_perm_of_commits {marked : List Marked} {commits : List Commit}
    (perm : (marked.map Marked.commit).Perm commits) :
    ∃ others, marked.Perm others ∧ others.map Marked.commit = commits := by
  have lifted : Relation.Comp (fun a b => a = b.map Marked.commit) List.Perm commits marked := by
    rw [List.eq_map_comp_perm]
    exact perm.symm
  obtain ⟨others, same, perm⟩ := lifted
  exact ⟨others, perm.symm, same.symm⟩

end Marked

namespace Commit

def InOnePair (commits : List Commit) : Prop := Marked.IsMatching (Marked.numberFrom 0 commits)

instance (commits : List Commit) : Decidable (InOnePair commits) :=
  inferInstanceAs (Decidable (Marked.IsMatching _))

theorem InOnePair.unreverted_perm {commits others : List Commit} (matching : InOnePair commits)
    (perm : commits.Perm others) {kept left : List Commit} (first : unreverted commits = .ok kept)
    (second : unreverted others = .ok left) : kept.Perm left := by
  have distinct : ((Marked.numberFrom 0 commits).map Marked.mark).Nodup := by
    rw [Marked.numberFrom_mark]
    exact List.nodup_range'
  rw [← Marked.numberFrom_commit 0 commits] at perm
  obtain ⟨marked, order, rfl⟩ := Marked.exists_perm_of_commits perm
  have distinct' := (order.map Marked.mark).nodup_iff.mp distinct
  rw [← Marked.withoutReverted_commit distinct'] at second
  obtain ⟨kept, run, rfl⟩ := map_eq_ok.mp first
  obtain ⟨left, run', rfl⟩ := map_eq_ok.mp second
  exact (matching.withoutReverted_perm distinct order run run').map Marked.commit

theorem unreverted_returns {commits : List Commit} (comparable : ∀ c ∈ commits, c.IsComparable) :
    ∃ kept, unreverted commits = .ok kept := by
  have run : ∃ kept, Marked.withoutReverted (Marked.numberFrom 0 commits) = .ok kept := by
    apply Marked.withoutReverted_returns
    intro c listed
    apply comparable
    rw [← Marked.numberFrom_commit 0 commits]
    exact List.mem_map_of_mem listed
  obtain ⟨kept, run⟩ := run
  exact ⟨_, map_eq_ok.mpr ⟨kept, run, rfl⟩⟩

end Commit

namespace Grammar

def IsGroup (v : Value) : Prop := v = .null ∨ ∃ s, v = .text s

theorem isGroup_ofGroup (group : Option (List Char)) : IsGroup (.ofGroup group) := by
  cases group with
  | none => exact .inl rfl
  | some cs => exact .inr ⟨_, rfl⟩

theorem fieldsOf_values {p : Option Regex} {text : List Char} {names : Value} {entries : Entries}
    (done : fieldsOf p text names = .ok (some entries)) : ∀ e ∈ entries, IsGroup e.2 := by
  unfold fieldsOf at done
  split at done
  · cases done
  · split at done
    · cases done
    · obtain ⟨_, given, ⟨⟩⟩ := map_eq_ok.mp done
      unfold correspond at given
      split at given
      · obtain ⟨items, _, given⟩ := bind_eq_ok.mp given
        dsimp only at given
        split at given
        · cases given
          refine Entries.putAll_values (by simp) fun e listed => ?_
          obtain ⟨group, _, same⟩ := List.mem_map.mp (List.of_mem_zip listed).2
          exact same ▸ isGroup_ofGroup group
        · cases given
      · cases given
        refine Entries.putAll_values (by simp) fun e listed => ?_
        obtain ⟨⟨name, index⟩, _, rfl⟩ := List.mem_map.mp listed
        exact isGroup_ofGroup _

theorem parse_isComparable {g : Grammar} {message hash : String} {c : Commit}
    (read : g.parse message (.text hash) = .ok c) : c.IsComparable := by
  obtain ⟨_, parts, found, rfl⟩ := parse_eq_ok.mp read
  refine ⟨⟨hash, rfl⟩, fun said => ?_⟩
  rw [Parts.commit_revert] at said ⊢
  cases reverted : parts.reverted with
  | none =>
      rw [reverted] at said
      cases said
  | some entries =>
      refine ⟨entries, rfl, fun e listed _ full => ?_⟩
      rcases fieldsOf_values (reverted ▸ found.reverted) e listed with null | text
      · rw [null] at full
        cases full
      · exact text

end Grammar

def RawCommit.HasTextHash (c : RawCommit) : Prop := ∃ hash, c.hash = .text hash

theorem Squash.split_hasTextHash {raw : RawCommit} (text : raw.HasTextHash) :
    ∀ c ∈ split raw, c.HasTextHash := by
  intro c part
  unfold split at part
  split at part
  · rename_i found
    obtain ⟨written, _, _, rfl⟩ := isSquash_of_outcome found
    obtain ⟨block, _, rfl⟩ := List.mem_map.mp part
    exact ⟨_, rfl⟩
  · exact List.mem_singleton.mp part ▸ text

namespace Setup

def RevertsMatch (s : Setup) (raws : List RawCommit) : Prop := Commit.InOnePair (s.commitsOf raws)

instance (s : Setup) (raws : List RawCommit) : Decidable (s.RevertsMatch raws) :=
  inferInstanceAs (Decidable (Commit.InOnePair _))

section Order

variable {s : Setup} {raws others : List RawCommit}

theorem readCommits_perm (perm : raws.Perm others) {commits : List Commit}
    (read : s.readCommits raws = .ok commits) :
    ∃ later, s.readCommits others = .ok later ∧ commits.Perm later :=
  mapM_perm ((perm.flatMap_right Squash.split).filter _) read

theorem readCommits_onlyMistyped : OnlyMistyped (s.readCommits raws) := by
  refine .mapM _ fun raw listed => s.grammar.parse_onlyMistyped _ _ ?_
  simpa using (List.mem_filter.mp listed).2

theorem readCommits_isComparable (texts : ∀ raw ∈ raws, raw.HasTextHash) {commits : List Commit}
    (read : s.readCommits raws = .ok commits) : ∀ c ∈ commits, c.IsComparable := by
  intro c listed
  rw [← commitsOf_eq read] at listed
  obtain ⟨part, split, found⟩ := List.mem_filterMap.mp listed
  obtain ⟨raw, member, split⟩ := List.mem_flatMap.mp split
  obtain ⟨hash, text⟩ := Squash.split_hasTextHash (texts raw member) part split
  rw [toOption_eq_some, text] at found
  exact Grammar.parse_isComparable found

theorem analyze_perm_of_ok (matching : s.RevertsMatch raws) (perm : raws.Perm others)
    {r r' : Option Release} (first : (s.analyze raws).map Analysis.release = .ok r)
    (second : (s.analyze others).map Analysis.release = .ok r') : r' = r := by
  rw [analyze_release] at first second
  obtain ⟨commits, read, first⟩ := bind_eq_ok.mp first
  obtain ⟨kept, left, first⟩ := bind_eq_ok.mp first
  obtain ⟨later, read', second⟩ := bind_eq_ok.mp second
  obtain ⟨kept', left', second⟩ := bind_eq_ok.mp second
  cases first
  cases second
  obtain ⟨_, again, perm⟩ := readCommits_perm perm read
  cases read'.symm.trans again
  rw [RevertsMatch, commitsOf_eq read] at matching
  have same := matching.unreverted_perm perm left left'
  exact (Release.mostSevere_perm (same.filterMap _)).symm

theorem analyze_returns (texts : ∀ raw ∈ raws, raw.HasTextHash) {commits : List Commit}
    (read : s.readCommits raws = .ok commits) :
    ∃ r, (s.analyze raws).map Analysis.release = .ok r := by
  obtain ⟨kept, left⟩ := Commit.unreverted_returns (readCommits_isComparable texts read)
  rw [analyze_release]
  exact ⟨_, bind_eq_ok.mpr ⟨commits, read, bind_eq_ok.mpr ⟨kept, left, rfl⟩⟩⟩

theorem analyze_perm (matching : s.RevertsMatch raws) (perm : raws.Perm others)
    (texts : ∀ raw ∈ raws, raw.HasTextHash) :
    (s.analyze others).map Analysis.release = (s.analyze raws).map Analysis.release := by
  cases read : s.readCommits raws with
  | ok commits =>
      obtain ⟨later, again, _⟩ := readCommits_perm perm read
      have texts' : ∀ raw ∈ others, raw.HasTextHash := fun raw listed =>
        texts raw (perm.mem_iff.mpr listed)
      obtain ⟨r, first⟩ := analyze_returns texts read
      obtain ⟨r', second⟩ := analyze_returns texts' again
      rw [first, second, analyze_perm_of_ok matching perm first second]
  | error failure =>
      cases again : s.readCommits others with
      | ok later =>
          obtain ⟨commits, done, _⟩ := readCommits_perm perm.symm again
          cases read.symm.trans done
      | error failure' =>
          rw [analyze_release, analyze_release, read, again,
            readCommits_onlyMistyped failure read, readCommits_onlyMistyped failure' again]

end Order

end Setup

/-- If each commit reverts, or is reverted by, at most one other, the release does not depend on the
order of the commits. With hashes that are texts the analysis fails in one order just if it fails,
and in the same way, in any other. -/
theorem Config.analyze_reordered (w : Workspace) (config : Config) {s : Setup}
    (loads : (config.prepare w).outcome = .ok s) {raws others : List RawCommit}
    (perm : raws.Perm others) (matching : s.RevertsMatch raws) :
    (∀ r r', (config.analyze w (.ok raws)).outcome = .ok r →
      (config.analyze w (.ok others)).outcome = .ok r' → r' = r) ∧
    ((∀ raw ∈ raws, raw.HasTextHash) →
      (config.analyze w (.ok others)).outcome = (config.analyze w (.ok raws)).outcome) := by
  simp only [analyze_of_loads loads]
  exact ⟨fun r r' first second => s.analyze_perm_of_ok matching perm first second,
    s.analyze_perm matching perm⟩

open Sample

theorem Config.analyze_reordered_revert :
    ∃ s, (({} : Config).prepare noFiles).outcome = .ok s ∧
      s.RevertsMatch [feature, fix, undo] ∧ [feature, fix, undo].Perm [undo, fix, feature] ∧
      (({} : Config).analyze noFiles (.ok [undo, fix, feature])).outcome = .ok (some .patch) := by
  have ready : ∃ s, (({} : Config).prepare noFiles).outcome = .ok s ∧
      s.RevertsMatch [feature, fix, undo] := by
    decide +kernel
  obtain ⟨s, loads, matching⟩ := ready
  have perm : [feature, fix, undo].Perm [undo, fix, feature] :=
    (List.reverse_perm [feature, fix, undo]).symm
  have texts : ∀ raw ∈ [feature, fix, undo], raw.HasTextHash := by
    simp [RawCommit.HasTextHash, feature, fix, undo]
  have first : (({} : Config).analyze noFiles (.ok [feature, fix, undo])).outcome =
      .ok (some .patch) := by
    decide +kernel
  have same := (Config.analyze_reordered noFiles {} loads perm matching).2 texts
  exact ⟨s, loads, matching, perm, same.trans first⟩

end ReleaseAdvisor
