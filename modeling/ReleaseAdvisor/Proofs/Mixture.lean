import ReleaseAdvisor.Proofs.Analysis
import ReleaseAdvisor.Proofs.Interleaved

/-!
Mixtures of commits. If no commit of one list reverts one of another, then in any mixture of the two
the reverts take out what they take out of each list alone, and the release is the more severe one.
-/

namespace ReleaseAdvisor

open Outcome

namespace Marked

/-- The last list is a mixture of the others, which have no mark in common, and no commit of one
reverts a commit of the other. -/
structure Mixture (xs ys zs : List Marked) : Prop where
  mixed : Interleaved xs ys zs
  distinct : ∀ x ∈ xs, ∀ y ∈ ys, x.mark ≠ y.mark
  unrelated : ∀ x ∈ xs, ∀ y ∈ ys, x.isRevertedBy y = .ok false ∧ y.isRevertedBy x = .ok false

/-- The marks removed in each list, and together. -/
structure RemovedApart (xs ys : List Marked) (fromXs fromYs removed : List Nat) : Prop where
  mixed : Interleaved fromXs fromYs removed
  left : IsPaired xs fromXs
  right : IsPaired ys fromYs

section Mixture

variable {xs ys zs : List Marked} {fromXs fromYs removed : List Nat}

theorem Mixture.swap (mixture : Mixture xs ys zs) : Mixture ys xs zs where
  mixed := mixture.mixed.swap
  distinct y inYs x inXs same := mixture.distinct x inXs y inYs same.symm
  unrelated y inYs x inXs := (mixture.unrelated x inXs y inYs).symm

theorem RemovedApart.swap (apart : RemovedApart xs ys fromXs fromYs removed) :
    RemovedApart ys xs fromYs fromXs removed where
  mixed := apart.mixed.swap
  left := apart.right
  right := apart.left

theorem Mixture.contains (mixture : Mixture xs ys zs)
    (apart : RemovedApart xs ys fromXs fromYs removed) :
    ∀ x ∈ xs, removed.contains x.mark = fromXs.contains x.mark := by
  intro x listed
  rw [Bool.eq_iff_iff, List.contains_iff_mem, List.contains_iff_mem, apart.mixed.mem_iff]
  constructor
  · rintro (gone | gone)
    · exact gone
    · obtain ⟨y, inYs, same⟩ := List.mem_map.mp (apart.right.listed _ gone)
      exact absurd same.symm (mixture.distinct x listed y inYs)
  · exact Or.inl

theorem target?_interleaved {revert : Marked} (mixed : Interleaved xs ys zs)
    (same : ∀ x ∈ xs, removed.contains x.mark = fromXs.contains x.mark)
    (unrelated : ∀ y ∈ ys, y.isRevertedBy revert = .ok false) :
    target? removed revert zs = target? fromXs revert xs := by
  induction mixed with
  | nil => rfl
  | @left x xs ys zs _ ih =>
      have rest := ih (fun _ member => same _ (List.mem_cons_of_mem _ member)) unrelated
      rw [target?, target?, same x List.mem_cons_self, rest]
  | @right y xs ys zs _ ih =>
      have rest := ih same fun _ member => unrelated _ (List.mem_cons_of_mem _ member)
      rw [target?, unrelated y List.mem_cons_self, rest]
      split
      · rfl
      · rfl

theorem Mixture.removeOne (mixture : Mixture xs ys zs)
    (apart : RemovedApart xs ys fromXs fromYs removed) {revert : Marked} (listed : revert ∈ xs) :
    Joins (RemovedApart xs ys) (removeOne xs fromXs revert) (.ok fromYs)
      (removeOne zs removed revert) := by
  have search : target? removed revert zs = target? fromXs revert xs :=
    target?_interleaved mixture.mixed (mixture.contains apart) fun y member =>
      (mixture.unrelated revert listed y member).2
  have gone := mixture.contains apart revert listed
  -- The revert finds in the mixture the target that it finds in its own part.
  by_cases idle : (!revert.commit.revert.truthy || fromXs.contains revert.mark) = true
  · have alone : Marked.removeOne xs fromXs revert = .ok fromXs := by
      rw [Marked.removeOne, if_pos idle]
    rw [alone, Marked.removeOne, gone, if_pos idle]
    exact joins_ok apart
  · cases found : target? fromXs revert xs with
    | error failure =>
        simp only [Marked.removeOne, gone, if_neg idle, search, found]
        exact joins_error failure failure
    | ok target =>
        have alone : ∃ next, Marked.removeOne xs fromXs revert = .ok next := by
          simp only [Marked.removeOne, if_neg idle, found]
          exact ⟨_, rfl⟩
        obtain ⟨next, alone⟩ := alone
        have paired := removeOne_isPaired listed apart.left alone
        rw [alone, Marked.removeOne, gone, if_neg idle, search, found]
        rw [Marked.removeOne, if_neg idle, found] at alone
        cases target with
        | none =>
            cases alone
            exact joins_ok apart
        | some c =>
            cases alone
            exact joins_ok ⟨apart.mixed.left.left, paired, apart.right⟩

theorem Mixture.removeAll (mixture : Mixture xs ys zs) {revertsX revertsY reverts : List Marked}
    (turns : Interleaved revertsX revertsY reverts) (inXs : revertsX ⊆ xs) (inYs : revertsY ⊆ ys)
    (apart : RemovedApart xs ys fromXs fromYs removed) :
    Joins (RemovedApart xs ys) (removeAll xs revertsX fromXs) (removeAll ys revertsY fromYs)
      (removeAll zs reverts removed) := by
  induction turns generalizing fromXs fromYs removed with
  | nil => exact joins_ok apart
  | left _ ih =>
      rw [removeAll_cons, removeAll_cons]
      have turn := mixture.removeOne apart (inXs List.mem_cons_self)
      exact turn.bind (g := Marked.removeAll ys _) fun _ _ _ _ same apart =>
        ih (fun _ member => inXs (List.mem_cons_of_mem _ member)) inYs apart
  | right _ ih =>
      rw [removeAll_cons, removeAll_cons]
      have turn := (mixture.swap.removeOne apart.swap (inYs List.mem_cons_self)).swap
      exact turn.bind (f := Marked.removeAll xs _) fun _ _ _ same _ apart =>
        ih inXs (fun _ member => inYs (List.mem_cons_of_mem _ member)) apart.swap

theorem Mixture.withoutReverted (mixture : Mixture xs ys zs) :
    Joins Interleaved (withoutReverted xs) (withoutReverted ys) (withoutReverted zs) := by
  have run := mixture.removeAll mixture.mixed (List.Subset.refl xs) (List.Subset.refl ys)
    ⟨.nil, isPaired_nil xs, isPaired_nil ys⟩
  refine run.bind fun fromXs fromYs removed _ _ apart => joins_ok ?_
  have left := List.filter_congr fun x listed =>
    congrArg not (mixture.contains apart x listed)
  have right := List.filter_congr fun y listed =>
    congrArg not (mixture.swap.contains apart.swap y listed)
  rw [← left, ← right]
  exact mixture.mixed.filter _

end Mixture

end Marked

namespace Commit

def Unrelated (c d : Commit) : Prop := c.isDescribedBy d = .ok false ∧ d.isDescribedBy c = .ok false

instance (c d : Commit) : Decidable (c.Unrelated d) := inferInstanceAs (Decidable (_ ∧ _))

theorem unreverted_mixture {xs ys zs : List Commit} (mixed : Interleaved xs ys zs)
    (unrelated : ∀ x ∈ xs, ∀ y ∈ ys, x.Unrelated y) :
    Joins Interleaved (unreverted xs) (unreverted ys) (unreverted zs) := by
  have numbered : Interleaved xs ys ((Marked.numberFrom 0 zs).map Marked.commit) := by
    rw [Marked.numberFrom_commit]
    exact mixed
  obtain ⟨markedX, markedY, rfl, rfl, placed⟩ := numbered.of_map
  have distinct : ((Marked.numberFrom 0 zs).map Marked.mark).Nodup := by
    rw [Marked.numberFrom_mark]
    exact List.nodup_range'
  rw [(placed.map Marked.mark).perm.nodup_iff, List.nodup_append] at distinct
  obtain ⟨distinctX, distinctY, apart⟩ := distinct
  have mixture : Marked.Mixture markedX markedY (Marked.numberFrom 0 zs) := by
    have differ : ∀ x ∈ markedX, ∀ y ∈ markedY, x.mark ≠ y.mark := fun x inX y inY =>
      apart _ (List.mem_map_of_mem inX) _ (List.mem_map_of_mem inY)
    refine ⟨placed, differ, fun x inX y inY => ?_⟩
    obtain ⟨first, second⟩ := unrelated _ (List.mem_map_of_mem inX) _ (List.mem_map_of_mem inY)
    rw [Marked.isRevertedBy, Marked.isRevertedBy, if_neg (differ x inX y inY),
      if_neg (differ x inX y inY).symm]
    exact ⟨first, second⟩
  rw [← Marked.withoutReverted_commit distinctX, ← Marked.withoutReverted_commit distinctY]
  exact mixture.withoutReverted.map fun _ _ _ kept => kept.map Marked.commit

def AreRevertPair : List Commit → Prop
  | [c, d] =>
    (c.isDescribedBy d).isOk ∧ (d.isDescribedBy c).isOk ∧
      (c.isDescribedBy d = .ok true ∨ d.isDescribedBy c = .ok true)
  | _ => False

instance : DecidablePred AreRevertPair
  | [_, _] => inferInstanceAs (Decidable (_ ∧ _ ∧ (_ ∨ _)))
  | [] => isFalse id
  | [_] => isFalse id
  | _ :: _ :: _ :: _ => isFalse id

theorem AreRevertPair.unreverted {commits : List Commit} (pair : AreRevertPair commits) :
    unreverted commits = .ok [] := by
  match commits, pair with
  | [c, d], ⟨first, second, reverts⟩ =>
      have gone : Marked.withoutReverted [⟨0, c⟩, ⟨1, d⟩] = .ok [] :=
        Marked.withoutReverted_pair (isOk_iff.mp first) (isOk_iff.mp second) reverts
      change (Marked.withoutReverted [⟨0, c⟩, ⟨1, d⟩]).map _ = _
      rw [gone]
      rfl

end Commit

theorem Release.mostSevere_interleaved {xs ys zs : List Release} (mixed : Interleaved xs ys zs) :
    mostSevere zs = moreSevere (mostSevere xs) (mostSevere ys) := by
  induction mixed with
  | nil => rfl
  | left _ ih => rw [mostSevere_cons, mostSevere_cons, ih, moreSevere_assoc]
  | @right r xs ys zs _ ih =>
      rw [mostSevere_cons, mostSevere_cons, ih, ← moreSevere_assoc,
        moreSevere_comm (some r) (mostSevere xs), moreSevere_assoc]

namespace Setup

def Apart (s : Setup) (xs ys : List RawCommit) : Prop :=
  ∀ c ∈ s.commitsOf xs, ∀ d ∈ s.commitsOf ys, c.Unrelated d

instance (s : Setup) (xs ys : List RawCommit) : Decidable (s.Apart xs ys) :=
  inferInstanceAs (Decidable (∀ c ∈ _, ∀ d ∈ _, Commit.Unrelated c d))

theorem readCommits_mixture (s : Setup) {xs ys zs : List RawCommit}
    (mixed : Interleaved xs ys zs) :
    Joins Interleaved (s.readCommits xs) (s.readCommits ys) (s.readCommits zs) :=
  ((mixed.flatMap Squash.split).filter _).mapM _

theorem analyze_joins (s : Setup) {xs ys zs : List RawCommit} (mixed : Interleaved xs ys zs)
    (apart : s.Apart xs ys) :
    Joins (fun a b r => r = Release.moreSevere a b) ((s.analyze xs).map Analysis.release)
      ((s.analyze ys).map Analysis.release) ((s.analyze zs).map Analysis.release) := by
  simp only [analyze_release]
  refine (s.readCommits_mixture mixed).bind fun commitsX commitsY commitsZ readX readY mixed => ?_
  rw [Apart, commitsOf_eq readX, commitsOf_eq readY] at apart
  refine (Commit.unreverted_mixture mixed apart).bind fun keptX keptY kept _ _ mixed => ?_
  exact joins_ok (Release.mostSevere_interleaved (mixed.filterMap _))

def ReadsRevertPair (s : Setup) (raws : List RawCommit) : Prop :=
  ∃ commits, s.readCommits raws = .ok commits ∧ Commit.AreRevertPair commits

instance (s : Setup) (raws : List RawCommit) : Decidable (s.ReadsRevertPair raws) :=
  inferInstanceAs (Decidable (∃ _, _ ∧ _))

theorem ReadsRevertPair.analyze {s : Setup} {raws : List RawCommit}
    (pair : s.ReadsRevertPair raws) : (s.analyze raws).map Analysis.release = .ok none := by
  obtain ⟨commits, read, pair⟩ := pair
  rw [analyze_release, read]
  change (Commit.unreverted commits >>= _) = _
  rw [pair.unreverted]
  rfl

end Setup

/-- The release of a mixture is the more severe of those of its two parts, if no commit of one part
reverts one of the other; the mixture can be analyzed just if both parts can. So the release is
never less severe than that of a part, and a part that is a commit and its revert changes
nothing. -/
theorem Config.analyze_mixture (w : Workspace) (config : Config) {s : Setup}
    (loads : (config.prepare w).outcome = .ok s) {xs ys zs : List RawCommit}
    (mixed : Interleaved xs ys zs) (apart : s.Apart xs ys) :
    (∀ r, (config.analyze w (.ok zs)).outcome = .ok r ↔
      ∃ a b, (config.analyze w (.ok xs)).outcome = .ok a ∧
        (config.analyze w (.ok ys)).outcome = .ok b ∧ r = Release.moreSevere a b) ∧
    (∀ a r, (config.analyze w (.ok xs)).outcome = .ok a →
      (config.analyze w (.ok zs)).outcome = .ok r → ∀ p ∈ a, ∃ q ∈ r, q.rank ≤ p.rank) ∧
    (s.ReadsRevertPair ys → ∀ r, (config.analyze w (.ok zs)).outcome = .ok r ↔
      (config.analyze w (.ok xs)).outcome = .ok r) := by
  have alone : ∀ commits, (config.analyze w (.ok commits)).outcome =
      (s.analyze commits).map Analysis.release := by
    intro commits
    rw [analyze_outcome, loads]
    rfl
  have joins := s.analyze_joins mixed apart
  simp only [alone]
  refine ⟨fun r => joins.eq_ok, ?_, ?_⟩
  · intro a r first last p best
    obtain ⟨a', b, first', _, rfl⟩ := joins.parts last
    cases first.symm.trans first'
    exact Release.moreSevere_covers_left b best
  · intro pair r
    rw [joins.eq_ok, pair.analyze]
    constructor
    · rintro ⟨a, b, first, second, rfl⟩
      cases second
      rw [first, Release.moreSevere_none_right]
    · intro first
      exact ⟨r, none, first, rfl, (Release.moreSevere_none_right r).symm⟩

namespace Sample

def noFiles : Workspace := { root := ⟨"/", []⟩, files := [] }

def fix : RawCommit := ⟨"fix(scope): First fix", .text "", false⟩

def feature : RawCommit := ⟨"feat(scope): First feature", .text "123", false⟩

def undo : RawCommit :=
  ⟨"revert: feat(scope): First feature\n\nThis reverts commit 123.\n", .text "456", false⟩

end Sample

open Sample

theorem Config.analyze_mixture_reverted_feature :
    ∃ s, (({} : Config).prepare noFiles).outcome = .ok s ∧ s.Apart [fix] [feature, undo] ∧
      s.ReadsRevertPair [feature, undo] ∧ Interleaved [fix] [feature, undo] [feature, fix, undo] ∧
      (({} : Config).analyze noFiles (.ok [feature, fix, undo])).outcome = .ok (some .patch) := by
  have ready : ∃ s, (({} : Config).prepare noFiles).outcome = .ok s ∧
      s.Apart [fix] [feature, undo] ∧ s.ReadsRevertPair [feature, undo] := by
    decide +kernel
  obtain ⟨s, loads, apart, pair⟩ := ready
  have mixed : Interleaved [fix] [feature, undo] [feature, fix, undo] :=
    .right (.left (.right .nil))
  have alone : (({} : Config).analyze noFiles (.ok [fix])).outcome = .ok (some .patch) := by
    decide +kernel
  have same := (Config.analyze_mixture noFiles {} loads mixed apart).2.2 pair (some .patch)
  exact ⟨s, loads, apart, pair, mixed, same.mpr alone⟩

end ReleaseAdvisor
