import ReleaseAdvisor.Proofs.Loading

/-!
What an analysis tells. Once its configuration is loaded there is one line for every blank message,
two for every commit that is looked at, and one at the end.
-/

namespace ReleaseAdvisor

open Outcome

def upToFirst {α : Type} (test : α → Bool) (items : List α) : List α :=
  items.takeWhile (fun item => !test item) ++ (items.find? test).toList

theorem upToFirst_cons {α : Type} (test : α → Bool) (item : α) (items : List α) :
    upToFirst test (item :: items) = item :: if test item then [] else upToFirst test items := by
  cases passes : test item <;> simp [upToFirst, passes]

def Parsed.pair (p : Parsed) : Pair := (p.raw, p.commit)

namespace Setup

def readPairs (s : Setup) (commits : List RawCommit) : Except Failure (List Pair) :=
  ((Squash.splitAll commits).filter fun c => !Text.blank c.message.toList).mapM fun c =>
    (s.grammar.parse c.message c.hash).map fun commit => (c, commit)

/-- Those of them that stay once reverted commits are taken out with their reverts. Equal commits
are told from each other by their places. -/
def keptPairs (s : Setup) (commits : List RawCommit) : Except Failure (List Pair) := do
  let pairs ← s.readPairs commits
  let kept ← Marked.withoutReverted (Marked.numberFrom 0 (pairs.map Prod.snd))
  return kept.filterMap fun c => pairs[c.mark]?

def skipLine (c : RawCommit) : String × List Value :=
  ("Skipping commit %s: %s", [if c.hash.truthy then c.hash else .text "(no hash)",
    .text "Expected a non-empty commit message"])

def verdictLines (s : Setup) (pair : Pair) : List (String × List Value) :=
  [("Analyzing commit: %s", [.text pair.1.message]),
    match (s.decide pair.2).release? with
    | some r => ("The release type for the commit is %s", [.text r.name])
    | none => ("The commit should not trigger a release", [])]

def summaryLine (count : Nat) (release : Option Release) : String × List Value :=
  ("Analysis of %s commits complete: %s release",
    [.int count, .text ((release.map Release.name).getD "no")])

def endsAt (s : Setup) (pair : Pair) : Bool := (s.decide pair.2).release? = some .major

end Setup

namespace Reading

theorem pair_parsedFrom (mark : Nat) (readings : List Reading) :
    (parsedFrom mark readings).map Parsed.pair = pairs readings := by
  induction readings generalizing mark with
  | nil => rfl
  | cons reading readings ih =>
      obtain ⟨raw, commit⟩ := reading
      cases commit with
      | error refusal => exact ih mark
      | ok commit =>
          simp only [parsedFrom, List.map_cons, ih]
          rfl

theorem mark_parsedFrom {mark i : Nat} {readings : List Reading} {p : Parsed}
    (found : (parsedFrom mark readings)[i]? = some p) : p.mark = mark + i := by
  have marks : ((parsedFrom mark readings).map Parsed.marked).map Marked.mark =
      List.range' mark (commits readings).length := by
    rw [marked_parsedFrom, Marked.numberFrom_mark]
  have same := congrArg (fun marks => marks[i]?) marks
  simp only [List.map_map, List.getElem?_map, found, Option.map_some] at same
  obtain ⟨_, place⟩ := List.getElem?_eq_some_iff.mp same.symm
  rw [List.getElem_range'] at place
  simpa [Parsed.marked] using place.symm

theorem told_skips {g : Grammar} {raws : List RawCommit} {readings : List Reading}
    (read : raws.mapM (ofCommit g) = .ok readings) :
    Event.told (skips readings) =
      (raws.filter fun c => Text.blank c.message.toList).map Setup.skipLine := by
  induction raws generalizing readings with
  | nil =>
      cases read
      rfl
  | cons raw raws ih =>
      rw [List.mapM_cons] at read
      obtain ⟨reading, first, read⟩ := bind_eq_ok.mp read
      obtain ⟨rest, later, same⟩ := bind_eq_ok.mp read
      cases same
      cases blank : Text.blank raw.message.toList with
      | true =>
          rw [ofCommit_blank g raw blank] at first
          cases first
          rw [List.filter_cons_of_pos (by simp [blank]), List.map_cons, ← ih later]
          rfl
      | false =>
          rw [ofCommit_said g raw blank] at first
          obtain ⟨commit, _, rfl⟩ := map_eq_ok.mp first
          rw [List.filter_cons_of_neg (by simp [blank]), ← ih later]
          rfl

end Reading

namespace Setup

theorem raise_eq_major_iff {best : Option Release} (below : best ≠ some .major) (r : Release) :
    raise best r = some .major ↔ r = .major := by
  unfold raise
  split
  · exact Option.some_inj
  · rename_i stays
    refine ⟨fun same => absurd same below, ?_⟩
    rintro rfl
    refine absurd ?_ stays
    rw [Option.all_eq_true]
    intro b same
    cases b <;> first | exact absurd same below | decide

theorem told_decideAll (s : Setup) (isKept : Nat → Bool) {best : Option Release}
    (below : best ≠ some .major) (parsed : List Parsed) :
    Event.told (s.decideAll isKept best parsed).events =
      (upToFirst s.endsAt ((parsed.filter fun p => isKept p.mark).map Parsed.pair)).flatMap
        s.verdictLines := by
  induction parsed generalizing best with
  | nil => rfl
  | cons p parsed ih =>
      cases stays : isKept p.mark with
      | false =>
          rw [decideAll, List.filter_cons_of_neg (by simp [stays])]
          simp only [stays, Bool.not_false, if_true, Analysis.after]
          exact ih below
      | true =>
          rw [decideAll, List.filter_cons_of_pos (by simp [stays]), List.map_cons, upToFirst_cons]
          simp only [stays, Bool.not_true, Bool.false_eq_true, if_false, List.flatMap_cons]
          -- Nothing is `major` so far, so the analysis ends here just if this decision is.
          cases decided : (s.decide p.commit).release? with
          | none =>
              have goes : s.endsAt p.pair = false := by simp [endsAt, Parsed.pair, decided]
              have lines : s.verdictLines p.pair =
                  Event.told [.analyzing p.raw.message, .noRelease] := by
                simp only [verdictLines, Parsed.pair, decided]
                rfl
              simp only [Analysis.after, goes, Bool.false_eq_true, if_false]
              rw [Event.told_append, lines, ih below]
          | some r =>
              have lines : s.verdictLines p.pair =
                  Event.told [.analyzing p.raw.message, .releaseFound r] := by
                simp only [verdictLines, Parsed.pair, decided]
                rfl
              rw [lines]
              dsimp only
              by_cases top : r = .major
              · have ends : s.endsAt p.pair = true := by simp [endsAt, Parsed.pair, decided, top]
                rw [if_pos ((raise_eq_major_iff below r).mpr top), if_pos ends]
                exact (List.append_nil _).symm
              · have goes : raise best r ≠ some .major := fun same =>
                  top ((raise_eq_major_iff below r).mp same)
                have on : s.endsAt p.pair = false := by simp [endsAt, Parsed.pair, decided, top]
                rw [if_neg goes, on, if_neg Bool.false_ne_true, Analysis.after, Event.told_append,
                  ih goes]

theorem pair_kept {readings : List Reading} {kept : List Marked}
    (done : Marked.withoutReverted ((Reading.parsedFrom 0 readings).map Parsed.marked) =
      .ok kept) :
    ((Reading.parsedFrom 0 readings).filter fun p =>
        (kept.map Marked.mark).contains p.mark).map Parsed.pair =
      kept.filterMap fun c => (Reading.pairs readings)[c.mark]? := by
  have place : ∀ p ∈ Reading.parsedFrom 0 readings,
      (Reading.pairs readings)[p.marked.mark]? = some p.pair := by
    intro p listed
    obtain ⟨i, found⟩ := List.mem_iff_getElem?.mp listed
    have mark : p.marked.mark = i := (Reading.mark_parsedFrom found).trans (Nat.zero_add i)
    rw [mark, ← Reading.pair_parsedFrom 0, List.getElem?_map, found]
    rfl
  conv_rhs => rw [← Parsed.marked_kept done, List.filterMap_map]
  rw [← List.filterMap_eq_map]
  exact List.filterMap_congr fun p stays => (place p (List.mem_filter.mp stays).1).symm

theorem told_analyze (s : Setup) (commits : List RawCommit) :
    (s.analyze commits).map (fun a => (Event.told a.events, a.release)) =
      (s.keptPairs commits).map fun kept =>
        let release := Release.mostSevere (kept.filterMap fun pair => (s.decide pair.2).release?)
        (((Squash.splitAll commits).filter fun c => Text.blank c.message.toList).map skipLine ++
          (upToFirst s.endsAt kept).flatMap s.verdictLines ++
          [summaryLine (Squash.splitAll commits).length release], release) := by
  have split : Event.told (commits.flatMap Squash.events) = [] := by
    refine Event.told_of_debug fun e listed => ?_
    obtain ⟨c, _, listed⟩ := List.mem_flatMap.mp listed
    unfold Squash.events at listed
    split at listed
    · cases listed
    · rw [List.mem_singleton.mp listed]
      rfl
    · rw [List.mem_singleton.mp listed]
      rfl
  rw [keptPairs, readPairs, ← Reading.pairs_mapM, analyze, readAll]
  cases read : (Squash.splitAll commits).mapM (Reading.ofCommit s.grammar) with
  | error failure => rfl
  | ok readings =>
      simp only [Except.map, bind, Except.bind, Reading.pairs_snd, ← Reading.marked_parsedFrom]
      cases done : Marked.withoutReverted ((Reading.parsedFrom 0 readings).map Parsed.marked) with
      | error failure => rfl
      | ok kept =>
          simp only [pure, Except.pure, Except.ok.injEq, Prod.mk.injEq]
          have start : none ≠ some Release.major := by decide
          rw [← pair_kept done, decideAll_release, Release.moreSevere_none_left]
          simp only [Event.told_append, split, Reading.told_skips read,
            told_decideAll s _ start, List.filterMap_map, List.nil_append]
          exact ⟨rfl, rfl⟩

theorem readCommits_eq (s : Setup) (commits : List RawCommit) :
    s.readCommits commits = (s.readPairs commits).map (List.map Prod.snd) := by
  rw [readCommits, ← Reading.commits_mapM, readPairs, ← Reading.pairs_mapM, Reading.commits_eq]

theorem keptPairs_returns {s : Setup} (typed : s.grammar.IsTyped) {commits : List RawCommit}
    (texts : ∀ c ∈ commits, c.HasTextHash) : ∃ kept, s.keptPairs commits = .ok kept := by
  obtain ⟨pairs, read⟩ : ∃ pairs, s.readPairs commits = .ok pairs := by
    refine mapM_returns fun raw listed => ?_
    have said := (List.mem_filter.mp listed).2
    obtain ⟨c, parsed⟩ := Grammar.parse_returns typed raw.hash ((Bool.not_eq_true' _).mp said)
    exact ⟨(raw, c), by rw [parsed]; rfl⟩
  have plain : s.readCommits commits = .ok (pairs.map Prod.snd) := by
    rw [readCommits_eq, read]
    rfl
  obtain ⟨kept, left⟩ : ∃ kept,
      Marked.withoutReverted (Marked.numberFrom 0 (pairs.map Prod.snd)) = .ok kept := by
    refine Marked.withoutReverted_returns fun c listed => ?_
    apply readCommits_isComparable texts plain
    rw [← Marked.numberFrom_commit 0 (pairs.map Prod.snd)]
    exact List.mem_map_of_mem listed
  exact ⟨_, bind_eq_ok.mpr ⟨pairs, read, bind_eq_ok.mpr ⟨kept, left, rfl⟩⟩⟩

end Setup

/-- What an analysis tells, once its configuration is loaded: a line for every blank message, then
two lines for every commit that stays, up to the first one that is `major`, and in the end one with
the number of all commits and the release. It fails only if the commits that stay cannot be found;
with a grammar of the right kinds and hashes that are texts they can. -/
theorem Config.analyze_tells (w : Workspace) (config : Config) {s : Setup}
    (loads : (config.prepare w).outcome = .ok s) (commits : List RawCommit) :
    (∀ kept, s.keptPairs commits = .ok kept →
      ∃ r, (config.analyze w (.ok commits)).outcome = .ok r ∧
        Event.told (config.analyze w (.ok commits)).events =
          ((Squash.splitAll commits).filter fun c => Text.blank c.message.toList).map
            Setup.skipLine ++
          (upToFirst s.endsAt kept).flatMap s.verdictLines ++
          [Setup.summaryLine (Squash.splitAll commits).length r]) ∧
    (∀ failure, s.keptPairs commits = .error failure →
      (config.analyze w (.ok commits)).outcome = .error failure) ∧
    (s.grammar.IsTyped → (∀ c ∈ commits, c.HasTextHash) →
      ∃ kept, s.keptPairs commits = .ok kept) := by
  have tells := s.told_analyze commits
  refine ⟨fun kept left => ?_, fun failure fails => ?_, fun typed texts =>
    Setup.keptPairs_returns typed texts⟩
  · rw [left] at tells
    obtain ⟨analysis, analyzed, same⟩ := map_eq_ok.mp tells
    obtain ⟨lines, release⟩ := Prod.mk.inj same
    refine ⟨analysis.release, ?_, ?_⟩
    · rw [analyze_of_loads loads, analyzed]
      rfl
    · have events : (config.analyze w (.ok commits)).events =
          (config.prepare w).events ++ (analysis.events ++ []) := by
        simp [analyze, bind, Traced.andThen, Except.bind, loads, Traced.ofExcept, analyzed,
          Traced.say, pure]
      rw [events, Event.told_append, config.prepare_isSilent w, List.append_nil, lines, release]
      rfl
  · rw [analyze_of_loads loads]
    rw [fails] at tells
    cases analyzed : s.analyze commits with
    | error failure' =>
        rw [analyzed] at tells
        exact congrArg Except.error (Except.error.inj tells)
    | ok analysis =>
        rw [analyzed] at tells
        cases tells

open Sample

def Sample.blank : RawCommit := ⟨" \n", .text "", false⟩

def Sample.breaking : RawCommit :=
  ⟨"feat: Second feature\n\nBREAKING CHANGE: no more", .text "789", false⟩

/-- Nothing is told of a feature and its revert, nor of what comes after the breaking commit; but
they count. -/
theorem Config.analyze_tells_up_to_breaking :
    ∃ s, (({} : Config).prepare noFiles).outcome = .ok s ∧
      ∃ kept, s.keptPairs [blank, feature, undo, fix, breaking, fix] = .ok kept ∧
        (Event.told (({} : Config).analyze noFiles
            (.ok [blank, feature, undo, fix, breaking, fix])).events).map
          (fun line => String.ofList (Event.fill line.1.toList line.2)) =
        ["Skipping commit (no hash): Expected a non-empty commit message",
          "Analyzing commit: fix(scope): First fix",
          "The release type for the commit is patch",
          "Analyzing commit: feat: Second feature\n\nBREAKING CHANGE: no more",
          "The release type for the commit is major",
          "Analysis of 6 commits complete: major release"] := by
  have ready : ∃ s, (({} : Config).prepare noFiles).outcome = .ok s ∧
      ∃ kept, s.keptPairs [blank, feature, undo, fix, breaking, fix] = .ok kept ∧
        ((upToFirst s.endsAt kept).flatMap s.verdictLines).map
          (fun line => String.ofList (Event.fill line.1.toList line.2)) =
        ["Analyzing commit: fix(scope): First fix",
          "The release type for the commit is patch",
          "Analyzing commit: feat: Second feature\n\nBREAKING CHANGE: no more",
          "The release type for the commit is major"] := by
    decide +kernel
  obtain ⟨s, loads, kept, left, lines⟩ := ready
  have major : (({} : Config).analyze noFiles
      (.ok [blank, feature, undo, fix, breaking, fix])).outcome = .ok (some .major) := by
    decide +kernel
  obtain ⟨r, returned, told⟩ := (Config.analyze_tells noFiles {} loads _).1 kept left
  cases major.symm.trans returned
  refine ⟨s, loads, kept, left, ?_⟩
  rw [told, List.map_append, List.map_append, lines]
  decide +kernel

end ReleaseAdvisor
