import ReleaseAdvisor.Analysis
import ReleaseAdvisor.Proofs.Marks
import ReleaseAdvisor.Proofs.Parse
import ReleaseAdvisor.Proofs.Severity

/-!
What an analysis finds. The release is the most severe one that any commit left after squash
merges, blank messages and reverts calls for by itself; that the analysis stops at the first
`major` does not show.
-/

namespace ReleaseAdvisor

open Outcome

/-- The commits that a list comes to: squash merges are split, blank messages left out, and the
others read by the grammar. -/
def Setup.readCommits (s : Setup) (commits : List RawCommit) : Except Failure (List Commit) :=
  ((Squash.splitAll commits).filter fun c => !Text.blank c.message.toList).mapM fun c =>
    s.grammar.parse c.message c.hash

theorem Grammar.filterMap_parse (g : Grammar) {raws : List RawCommit} {commits : List Commit}
    (read : ((raws.filter fun c => !Text.blank c.message.toList).mapM fun c =>
      g.parse c.message c.hash) = .ok commits) :
    (raws.filterMap fun c => (g.parse c.message c.hash).toOption) = commits := by
  induction raws generalizing commits with
  | nil =>
      cases read
      rfl
  | cons raw raws ih =>
      cases blank : Text.blank raw.message.toList with
      | true =>
          rw [List.filter_cons_of_neg (by simp [blank])] at read
          rw [List.filterMap_cons, g.parse_blank _ _ blank]
          exact ih read
      | false =>
          rw [List.filter_cons_of_pos (by simp [blank]), List.mapM_cons] at read
          obtain ⟨c, first, read⟩ := bind_eq_ok.mp read
          obtain ⟨rest, later, same⟩ := bind_eq_ok.mp read
          cases same
          rw [List.filterMap_cons, first, ih later]
          rfl

abbrev Pair := RawCommit × Commit

namespace Reading

def commits (readings : List Reading) : List Commit := readings.filterMap fun r => r.commit.toOption

theorem ofCommit_blank (g : Grammar) (raw : RawCommit)
    (blank : Text.blank raw.message.toList = true) :
    ofCommit g raw = .ok ⟨raw, .error .emptyMessage⟩ := by
  rw [ofCommit, g.parse_blank _ _ blank]

theorem ofCommit_said (g : Grammar) (raw : RawCommit)
    (said : Text.blank raw.message.toList = false) :
    ofCommit g raw = (g.parse raw.message raw.hash).map fun commit => ⟨raw, .ok commit⟩ := by
  have mistyped := g.parse_onlyMistyped raw.message raw.hash said
  unfold ofCommit
  cases read : g.parse raw.message raw.hash with
  | ok commit => rfl
  | error failure =>
      rw [mistyped failure read]
      rfl

def pairs (readings : List Reading) : List Pair :=
  readings.filterMap fun r => r.commit.toOption.map fun commit => (r.raw, commit)

theorem pairs_snd (readings : List Reading) : (pairs readings).map Prod.snd = commits readings := by
  simp [pairs, commits, List.map_filterMap]

theorem pairs_mapM (g : Grammar) (raws : List RawCommit) :
    (raws.mapM (ofCommit g)).map pairs =
      (raws.filter fun c => !Text.blank c.message.toList).mapM fun c =>
        (g.parse c.message c.hash).map fun commit => (c, commit) := by
  induction raws with
  | nil => rfl
  | cons raw raws ih =>
      rw [List.mapM_cons]
      cases blank : Text.blank raw.message.toList with
      | true =>
          rw [ofCommit_blank g raw blank, List.filter_cons_of_neg (by simp [blank]), ← ih]
          cases raws.mapM (ofCommit g) with
          | error failure => rfl
          | ok readings => rfl
      | false =>
          rw [ofCommit_said g raw blank, List.filter_cons_of_pos (by simp [blank]), List.mapM_cons,
            ← ih]
          cases g.parse raw.message raw.hash with
          | error failure => rfl
          | ok commit =>
              cases raws.mapM (ofCommit g) with
              | error failure => rfl
              | ok readings => rfl

theorem commits_eq (result : Except Failure (List Reading)) :
    result.map commits = (result.map pairs).map (List.map Prod.snd) := by
  cases result with
  | error failure => rfl
  | ok readings => exact congrArg Except.ok (pairs_snd readings).symm

theorem commits_mapM (g : Grammar) (raws : List RawCommit) :
    (raws.mapM (ofCommit g)).map commits =
      (raws.filter fun c => !Text.blank c.message.toList).mapM fun c =>
        g.parse c.message c.hash := by
  have plain : ∀ c : RawCommit, ((g.parse c.message c.hash).map fun commit => (c, commit)).map
      Prod.snd = g.parse c.message c.hash := by
    intro c
    cases g.parse c.message c.hash <;> rfl
  rw [commits_eq, pairs_mapM, map_mapM]
  simp only [plain]

theorem marked_parsedFrom (mark : Nat) (readings : List Reading) :
    (parsedFrom mark readings).map Parsed.marked = Marked.numberFrom mark (commits readings) := by
  induction readings generalizing mark with
  | nil => rfl
  | cons reading readings ih =>
      obtain ⟨raw, commit⟩ := reading
      cases commit with
      | error refusal => exact ih mark
      | ok commit =>
          simp only [parsedFrom, List.map_cons, ih]
          rfl

end Reading

theorem Parsed.marked_kept {parsed : List Parsed} {kept : List Marked}
    (done : Marked.withoutReverted (parsed.map Parsed.marked) = .ok kept) :
    (parsed.filter fun p => (kept.map Marked.mark).contains p.mark).map Parsed.marked = kept := by
  obtain ⟨removed, _, same⟩ := Marked.withoutReverted_eq_ok.mp done
  have stays : ∀ p ∈ parsed,
      (kept.map Marked.mark).contains p.mark = !removed.contains p.mark := by
    intro p listed
    rw [Bool.eq_iff_iff]
    simp only [same, List.contains_iff_mem, List.mem_map, List.mem_filter]
    constructor
    · rintro ⟨c, ⟨_, left⟩, equal⟩
      rw [← equal]
      exact left
    · intro left
      exact ⟨p.marked, ⟨⟨p, listed, rfl⟩, left⟩, rfl⟩
  rw [List.filter_congr stays, same, List.filter_map]
  rfl

namespace Setup

def commitsOf (s : Setup) (raws : List RawCommit) : List Commit :=
  (Squash.splitAll raws).filterMap fun c => (s.grammar.parse c.message c.hash).toOption

theorem commitsOf_eq {s : Setup} {raws : List RawCommit} {commits : List Commit}
    (read : s.readCommits raws = .ok commits) : s.commitsOf raws = commits :=
  s.grammar.filterMap_parse read

theorem raise_eq (best : Option Release) (r : Release) :
    raise best r = Release.moreSevere best (some r) := by
  cases best with
  | none => rfl
  | some b =>
      by_cases above : r.rank < b.rank <;> simp [raise, Release.moreSevere, above]

/-- Going through the commits comes to the most severe release of those that stay, and of the best
one before. After a `major` the rest changes nothing. -/
theorem decideAll_release (s : Setup) (isKept : Nat → Bool) (best : Option Release)
    (parsed : List Parsed) :
    (s.decideAll isKept best parsed).release =
      Release.moreSevere best (Release.mostSevere
        ((parsed.filter fun p => isKept p.mark).filterMap fun p => (s.decide p.commit).release?)) := by
  induction parsed generalizing best with
  | nil => rw [decideAll, List.filter_nil, List.filterMap_nil]; simp [Release.mostSevere]
  | cons p parsed ih =>
      rw [decideAll]
      by_cases stays : isKept p.mark = true
      · rw [List.filter_cons, if_pos stays]
        cases decided : (s.decide p.commit).release? with
        | none =>
            simp only [stays, Bool.not_true, Bool.false_eq_true, if_false, Analysis.after]
            simp only [ih, List.filterMap_cons, decided]
        | some r =>
            rw [List.filterMap_cons]
            simp only [decided]
            rw [Release.mostSevere_cons, ← Release.moreSevere_assoc, ← raise_eq]
            simp only [stays, Bool.not_true, Bool.false_eq_true, if_false]
            split
            · rename_i top
              rw [top, Release.moreSevere_major]
            · exact ih _
      · rw [List.filter_cons, if_neg stays]
        simp only [stays, Bool.not_false, if_true, Analysis.after]
        exact ih best

theorem analyze_release (s : Setup) (commits : List RawCommit) :
    (s.analyze commits).map Analysis.release = do
      let kept ← Commit.unreverted (← s.readCommits commits)
      return Release.mostSevere (kept.filterMap fun c => (s.decide c).release?) := by
  rw [readCommits, ← Reading.commits_mapM, analyze, readAll]
  cases (Squash.splitAll commits).mapM (Reading.ofCommit s.grammar) with
  | error failure => rfl
  | ok readings =>
      change _ = (Commit.unreverted (Reading.commits readings) >>= _)
      rw [Commit.unreverted, ← Reading.marked_parsedFrom]
      cases done : Marked.withoutReverted ((Reading.parsedFrom 0 readings).map Parsed.marked) with
      | error failure =>
          simp only [bind, Except.bind, done]
          rfl
      | ok kept =>
          simp only [bind, Except.bind, done]
          change Except.ok _ = Except.ok _
          have stays := Parsed.marked_kept done
          rw [decideAll_release, Release.moreSevere_none_left]
          conv_rhs => rw [← stays]
          simp only [List.map_map, List.filterMap_map]
          rfl

end Setup

theorem Config.analyze_outcome (w : Workspace) (config : Config) (commits : List RawCommit) :
    (config.analyze w (.ok commits)).outcome =
      (config.prepare w).outcome >>= fun s => (s.analyze commits).map Analysis.release := by
  simp only [analyze, bind, Traced.andThen, Except.bind]
  cases (config.prepare w).outcome with
  | error failure => rfl
  | ok s =>
      cases analyzed : s.analyze commits with
      | error failure => simp [Traced.ofExcept, analyzed, Except.map]
      | ok analysis => simp [Traced.ofExcept, Traced.say, analyzed, Except.map, pure]

theorem Config.analyze_of_loads {w : Workspace} {config : Config} {s : Setup}
    (loads : (config.prepare w).outcome = .ok s) (commits : List RawCommit) :
    (config.analyze w (.ok commits)).outcome = (s.analyze commits).map Analysis.release := by
  rw [analyze_outcome, loads]
  rfl

/-- Whatever the configuration asks for, the release is the most severe of those that the commits
left call for, each decided by itself; it is none if they call for none. Left are the commits
without blank ones, with squash merges split, that the grammar reads and no revert takes out. -/
theorem Config.analyze_finds_most_severe (w : Workspace) (config : Config)
    (commits : List RawCommit) :
    (config.analyze w (.ok commits)).outcome = do
      let s ← (config.prepare w).outcome
      let kept ← Commit.unreverted (← s.readCommits commits)
      return Release.mostSevere (kept.filterMap fun c =>
        ((RuleSet.decideFor s.rules c).demoteIf s.initial).release?) := by
  rw [analyze_outcome]
  simp only [Setup.analyze_release]
  rfl

end ReleaseAdvisor
