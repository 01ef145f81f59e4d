import ReleaseAdvisor.Proofs.Mixture

/-!
Initial development. Every commit's own decision is taken down before the most severe one is
picked; that comes to taking down the release itself, but for one case: `preminor` falls below a
`patch`, which stays where it is.
-/

namespace ReleaseAdvisor

open Outcome

namespace Release

theorem rank_le_demoted (r : Release) : r.rank ≤ r.demoted.rank := by
  cases r <;> decide

theorem demoted_ne_major (r : Release) : r.demoted ≠ .major := by
  cases r <;> decide

theorem demoted_ne_premajor (r : Release) : r.demoted ≠ .premajor := by
  cases r <;> decide

/-- Going down keeps the order of two types, unless a `preminor` passes a `patch`. -/
theorem demoted_rank_le {a b : Release} (above : a.rank ≤ b.rank)
    (apart : ¬(a = .preminor ∧ b = .patch)) : a.demoted.rank ≤ b.demoted.rank := by
  revert above apart
  cases a <;> cases b <;> decide

def demotedAmong (releases : List Release) (best : Option Release) : Option Release :=
  if best = some .preminor ∧ .patch ∈ releases then some .patch else best.map demoted

theorem mostSevere_demoted (releases : List Release) :
    mostSevere (releases.map demoted) = demotedAmong releases (mostSevere releases) := by
  cases best : mostSevere releases with
  | none =>
      rw [mostSevere_eq_none_iff.mp best]
      rfl
  | some r =>
      obtain ⟨member, least⟩ := mostSevere_eq_some_iff.mp best
      by_cases passed : r = .preminor ∧ .patch ∈ releases
      · obtain ⟨rfl, patch⟩ := passed
        rw [demotedAmong, if_pos ⟨rfl, patch⟩, mostSevere_eq_some_iff]
        refine ⟨List.mem_map.mpr ⟨.patch, patch, rfl⟩, ?_⟩
        intro down fallen
        obtain ⟨other, listed, rfl⟩ := List.mem_map.mp fallen
        have below := least other listed
        revert below
        cases other <;> decide
      · rw [demotedAmong, if_neg (by simpa using passed), Option.map_some, mostSevere_eq_some_iff]
        refine ⟨List.mem_map_of_mem member, ?_⟩
        intro down fallen
        obtain ⟨other, listed, rfl⟩ := List.mem_map.mp fallen
        refine demoted_rank_le (least other listed) ?_
        rintro ⟨rfl, rfl⟩
        exact passed ⟨rfl, listed⟩

theorem demotedAmong_eq_none_iff {releases : List Release} {best : Option Release} :
    demotedAmong releases best = none ↔ best = none := by
  unfold demotedAmong
  split
  · rename_i passed
    simp [passed.1]
  · exact Option.map_eq_none_iff

theorem rank_le_demotedAmong {releases : List Release} {p q : Release}
    (down : demotedAmong releases (some p) = some q) : p.rank ≤ q.rank := by
  unfold demotedAmong at down
  split at down
  · rename_i passed
    cases passed.1
    cases down
    decide
  · cases down
    exact rank_le_demoted p

theorem demotedAmong_below_premajor {releases : List Release} {best : Option Release} :
    demotedAmong releases best ≠ some .major ∧ demotedAmong releases best ≠ some .premajor := by
  unfold demotedAmong
  split
  · decide
  · constructor
    · rintro found
      obtain ⟨r, _, same⟩ := Option.map_eq_some_iff.mp found
      exact demoted_ne_major r same
    · rintro found
      obtain ⟨r, _, same⟩ := Option.map_eq_some_iff.mp found
      exact demoted_ne_premajor r same

end Release

theorem Decision.release?_demoteIf (initial : Bool) (d : Decision) :
    (d.demoteIf initial).release? =
      if initial then d.release?.map Release.demoted else d.release? := by
  rcases d with _ | _ | _ | _ <;> cases initial <;> rfl

namespace Setup

def remaining (s : Setup) (commits : List RawCommit) : Except Failure (List Commit) := do
  Commit.unreverted (← s.readCommits commits)

/-- The named types that the commits call for, each by itself and before any goes down. -/
def ownReleases (s : Setup) (kept : List Commit) : List Release :=
  kept.filterMap fun c => (RuleSet.decideFor s.rules c).release?

theorem mem_ownReleases {s : Setup} {kept : List Commit} {r : Release} :
    r ∈ s.ownReleases kept ↔ ∃ c ∈ kept, RuleSet.decideFor s.rules c = some (.release r) := by
  have named : ∀ d : Decision, d.release? = some r ↔ d = some (.release r) := by
    intro d
    rcases d with _ | _ | _ | _ <;> simp [Decision.release?]
  simp only [ownReleases, List.mem_filterMap, named]

theorem analyze_release_own (s : Setup) (commits : List RawCommit) :
    (s.analyze commits).map Analysis.release = (s.remaining commits).map fun kept =>
      Release.mostSevere (if s.initial then (s.ownReleases kept).map Release.demoted
        else s.ownReleases kept) := by
  have same : ∀ kept : List Commit, kept.filterMap (fun c => (s.decide c).release?) =
      if s.initial then (s.ownReleases kept).map Release.demoted else s.ownReleases kept := by
    intro kept
    cases down : s.initial <;>
      simp [decide, Decision.release?_demoteIf, down, ownReleases, List.map_filterMap]
  simp only [analyze_release, same, remaining, ← bind_assoc]
  rfl

end Setup

def Config.initially (config : Config) : Config := { config with initial := some true }

theorem Config.prepare_initially (w : Workspace) (config : Config) :
    (config.initially.prepare w).outcome =
      (config.prepare w).outcome.map fun s => { s with initial := true } := by
  have rules : config.initially.rules = config.rules := rfl
  have options : Grammar.loadOptions w config.initially = Grammar.loadOptions w config := rfl
  have initial : config.initially.isInitial = true := rfl
  simp only [prepare, rules, options, initial, bind, Traced.andThen]
  cases (RuleSet.load w config.rules).outcome with
  | error failure => rfl
  | ok rules =>
      cases (Grammar.loadOptions w config).outcome with
      | error failure => rfl
      | ok options =>
          simp only [Traced.ofExcept]
          cases Grammar.compile options with
          | error failure => rfl
          | ok grammar => rfl

theorem Config.prepare_initial {w : Workspace} {config : Config} {s : Setup}
    (loads : (config.prepare w).outcome = .ok s) : s.initial = config.isInitial := by
  simp only [prepare, bind, Traced.andThen] at loads
  cases ruled : (RuleSet.load w config.rules).outcome with
  | error failure => simp [ruled] at loads
  | ok rules =>
      cases opted : (Grammar.loadOptions w config).outcome with
      | error failure => simp [ruled, opted] at loads
      | ok options =>
          cases compiled : Grammar.compile options with
          | error failure => simp [ruled, opted, compiled, Traced.ofExcept] at loads
          | ok grammar =>
              simp only [ruled, opted, compiled, Traced.ofExcept] at loads
              cases loads
              rfl

/-- In initial development the release is the one that would be found otherwise, taken down; but a
`preminor` becomes a `patch` if some commit that stays calls for that by itself. So a release is
found in one case just if it is in the other, it never becomes more severe, and it is at most a
`minor`. -/
theorem Config.analyze_initially (w : Workspace) (config : Config) {s : Setup}
    (loads : (config.prepare w).outcome = .ok s) (off : config.isInitial = false)
    (commits : List RawCommit) :
    ((config.initially.analyze w (.ok commits)).outcome = do
      let r ← (config.analyze w (.ok commits)).outcome
      let kept ← s.remaining commits
      return if r = some .preminor ∧
          ∃ c ∈ kept, RuleSet.decideFor s.rules c = some (.release .patch)
        then some .patch else r.map Release.demoted) ∧
    (∀ r r', (config.analyze w (.ok commits)).outcome = .ok r →
      (config.initially.analyze w (.ok commits)).outcome = .ok r' →
      (r' = none ↔ r = none) ∧ (∀ p ∈ r, ∀ q ∈ r', p.rank ≤ q.rank) ∧
        r' ≠ some .major ∧ r' ≠ some .premajor) := by
  have plain : (config.analyze w (.ok commits)).outcome =
      (s.remaining commits).map fun kept => Release.mostSevere (s.ownReleases kept) := by
    have still : s.initial = false := (prepare_initial loads).trans off
    rw [analyze_of_loads loads]
    simp only [Setup.analyze_release_own, still, Bool.false_eq_true, if_false]
  have fallen : (config.initially.analyze w (.ok commits)).outcome =
      (s.remaining commits).map fun kept =>
        Release.demotedAmong (s.ownReleases kept) (Release.mostSevere (s.ownReleases kept)) := by
    have started : (config.initially.prepare w).outcome = .ok { s with initial := true } := by
      rw [prepare_initially, loads]
      rfl
    rw [analyze_of_loads started, Setup.analyze_release_own]
    simp only [if_true, Release.mostSevere_demoted]
    rfl
  -- Both cases find the same commits; they differ in the phase only.
  rw [plain, fallen]
  cases s.remaining commits with
  | error failure =>
      constructor
      · rfl
      · rintro r r' found
        cases found
  | ok kept =>
      constructor
      · simp only [Except.map, bind, Except.bind, pure, Except.pure, Release.demotedAmong,
          Setup.mem_ownReleases]
      · rintro r r' ⟨⟩ ⟨⟩
        refine ⟨Release.demotedAmong_eq_none_iff, ?_, Release.demotedAmong_below_premajor⟩
        intro p best q down
        simp only [Option.mem_def] at best down
        rw [best] at down
        exact Release.rank_le_demotedAmong down

open Sample

def Sample.cautious : Config :=
  { rules := .list [.ofNamed [("type", .text "feat"), ("release", .text "preminor")]] }

/-- A feature and a fix, which are a `preminor` together, are a `patch` in initial development. -/
theorem Config.analyze_initially_passed :
    ∃ s, (cautious.prepare noFiles).outcome = .ok s ∧ cautious.isInitial = false ∧
      (cautious.analyze noFiles (.ok [feature, fix])).outcome = .ok (some .preminor) ∧
      (cautious.initially.analyze noFiles (.ok [feature, fix])).outcome = .ok (some .patch) := by
  have ready : ∃ s, (cautious.prepare noFiles).outcome = .ok s ∧
      ∃ kept, s.remaining [feature, fix] = .ok kept ∧
        ∃ c ∈ kept, RuleSet.decideFor s.rules c = some (.release .patch) := by
    decide +kernel
  obtain ⟨s, loads, kept, stay, patch⟩ := ready
  have plain : (cautious.analyze noFiles (.ok [feature, fix])).outcome = .ok (some .preminor) := by
    decide +kernel
  refine ⟨s, loads, rfl, plain, ?_⟩
  rw [(Config.analyze_initially noFiles cautious loads rfl [feature, fix]).1, plain, stay]
  exact congrArg Except.ok (if_pos ⟨rfl, patch⟩)

end ReleaseAdvisor
