import ReleaseAdvisor.Proofs.Analysis
import ReleaseAdvisor.Proofs.Mixture
import ReleaseAdvisor.Proofs.Squash.Nested

/-!
Messages with other line ends. A carriage return before every line feed changes neither the lines
of a message nor those of a squash merge. Only what is matched against a message as a whole sees
the difference, so commits that describe no revert call for the same release either way.
-/

namespace ReleaseAdvisor

open Outcome

namespace Text

def withReturns (cs : List Char) : List Char :=
  cs.flatMap fun c => if c = '\n' then ['\r', '\n'] else [c]

@[simp] theorem withReturns_feed (cs : List Char) :
    withReturns ('\n' :: cs) = '\r' :: '\n' :: withReturns cs := rfl

theorem withReturns_cons {c : Char} (other : c ≠ '\n') (cs : List Char) :
    withReturns (c :: cs) = c :: withReturns cs := by
  simp [withReturns, other]

theorem blank_withReturns (cs : List Char) : blank (withReturns cs) = blank cs := by
  induction cs with
  | nil => rfl
  | cons c cs ih =>
      by_cases feed : c = '\n'
      · subst feed
        have both : isBlank '\r' = true ∧ isBlank '\n' = true := by decide
        rw [blank, blank] at ih
        simp only [withReturns_feed, blank, List.all_cons, both, Bool.true_and, ih]
      · rw [blank, blank] at ih
        simp only [withReturns_cons feed, blank, List.all_cons, ih]

theorem linesFrom_withReturns {cs : List Char} (free : '\r' ∉ cs) (line : List Char) :
    linesFrom line (withReturns cs) = linesFrom line cs := by
  induction cs generalizing line with
  | nil => rfl
  | cons c cs ih =>
      obtain ⟨other, later⟩ := List.ne_and_not_mem_of_not_mem_cons free
      have plain : ∀ rest, linesFrom line (c :: rest) =
          if isLineEnd c then line.reverse :: linesFrom [] rest else linesFrom (c :: line) rest := by
        intro rest
        rw [linesFrom]
        exact fun _ same _ => other same.symm
      by_cases feed : c = '\n'
      · have ends : isLineEnd c = true := by rw [feed]; decide
        rw [plain, if_pos ends, feed, withReturns_feed, linesFrom, ih later]
      · rw [withReturns_cons feed, plain, plain, ih later, ih later]

theorem lines_withReturns {cs : List Char} (free : '\r' ∉ cs) :
    lines (withReturns cs) = lines cs :=
  linesFrom_withReturns free []

end Text

def RawCommit.withReturns (c : RawCommit) : RawCommit :=
  { c with message := String.ofList (Text.withReturns c.message.toList) }

@[simp] theorem RawCommit.toList_withReturns (c : RawCommit) :
    c.withReturns.message.toList = Text.withReturns c.message.toList :=
  String.toList_ofList

namespace Squash

theorem linesFrom_withReturns {cs : List Char} (free : '\r' ∉ cs) (line : List Char) :
    linesFrom line (Text.withReturns cs) = linesFrom line cs := by
  induction cs generalizing line with
  | nil => rfl
  | cons c cs ih =>
      obtain ⟨other, later⟩ := List.ne_and_not_mem_of_not_mem_cons free
      by_cases feed : c = '\n'
      · rw [feed, Text.withReturns_feed, linesFrom, linesFrom, ih later]
      · have plain : ∀ rest, linesFrom line (c :: rest) = linesFrom (c :: line) rest := by
          intro rest
          rw [linesFrom]
          · exact fun _ same _ => other same.symm
          · exact fun same => other same.symm
          · exact feed
        rw [Text.withReturns_cons feed, plain, plain, ih later]

theorem outcome_withReturns {cs : List Char} (free : '\r' ∉ cs) :
    outcome (Text.withReturns cs) = outcome cs := by
  have same : lines (Text.withReturns cs) = lines cs := linesFrom_withReturns free []
  rw [outcome, outcome, same]

theorem split_withReturns_of_isMerge {c : RawCommit} (free : '\r' ∉ c.message.toList)
    (merge : c.IsMerge) : split c.withReturns = split c := by
  obtain ⟨written, some, listed⟩ := merge
  have found : outcome c.withReturns.message.toList = .commits (written.map Block.commit) := by
    rw [c.toList_withReturns, outcome_withReturns free, outcome_of_isSquash some listed]
  rw [split, found, split_of_isSquash some listed]

theorem split_withReturns_of_not_isMerge {c : RawCommit} (free : '\r' ∉ c.message.toList)
    (single : ¬c.IsMerge) : split c.withReturns = [c.withReturns] := by
  have alone : ∀ commits, outcome c.message.toList ≠ .commits commits := by
    intro commits found
    obtain ⟨written, some, listed, _⟩ := isSquash_of_outcome found
    exact single ⟨written, some, listed⟩
  rw [split, c.toList_withReturns, outcome_withReturns free]
  split
  · rename_i commits found
    exact absurd found (alone commits)
  · rfl

end Squash

namespace Grammar

def MatchesRevert (g : Grammar) (text : List Char) : Prop :=
  (g.revert.bind fun p => p.match? text).isSome = true

instance (g : Grammar) (text : List Char) : Decidable (g.MatchesRevert text) :=
  inferInstanceAs (Decidable (_ = true))

theorem fieldsOf_revert_eq_none {g : Grammar} {text : List Char}
    (silent : ¬g.MatchesRevert text) : fieldsOf g.revert text g.revertNames = .ok none := by
  unfold fieldsOf
  split
  · rfl
  · rename_i p present
    split
    · rfl
    · rename_i found matched
      exact absurd (by simp [MatchesRevert, present, matched]) silent

theorem parse_withReturns (g : Grammar) {message : String} (hash : Value)
    (free : '\r' ∉ message.toList) (silent : ¬g.MatchesRevert message.toList)
    (silent' : ¬g.MatchesRevert (Text.withReturns message.toList)) :
    g.parse (String.ofList (Text.withReturns message.toList)) hash = g.parse message hash := by
  have lines : g.linesOf (Text.withReturns message.toList) = g.linesOf message.toList := by
    rw [linesOf, linesOf, Text.lines_withReturns free]
  unfold parse
  simp only [String.toList_ofList, Text.blank_withReturns, lines, fieldsOf_revert_eq_none silent,
    fieldsOf_revert_eq_none silent']

end Grammar

namespace Setup

def readParts (s : Setup) (raw : RawCommit) : Except Failure (List Commit) :=
  ((Squash.split raw).filter fun c => !Text.blank c.message.toList).mapM fun c =>
    s.grammar.parse c.message c.hash

theorem readCommits_cons (s : Setup) (raw : RawCommit) (raws : List RawCommit) :
    s.readCommits (raw :: raws) = do
      return (← s.readParts raw) ++ (← s.readCommits raws) := by
  rw [readCommits, Squash.splitAll, List.flatMap_cons, List.filter_append, List.mapM_append]
  rfl

theorem readCommits_map {s : Setup} {f : RawCommit → RawCommit} {raws : List RawCommit}
    (each : ∀ raw ∈ raws, s.readParts (f raw) = s.readParts raw) :
    s.readCommits (raws.map f) = s.readCommits raws := by
  induction raws with
  | nil => rfl
  | cons raw raws ih =>
      obtain ⟨first, later⟩ := List.forall_mem_cons.mp each
      rw [List.map_cons, readCommits_cons, readCommits_cons, first, ih later]

/-- No message that is read from the commits describes a revert, with either kind of line end. -/
def RevertsNothing (s : Setup) (raws : List RawCommit) : Prop :=
  ∀ c ∈ Squash.splitAll raws, ¬s.grammar.MatchesRevert c.message.toList ∧
    ¬s.grammar.MatchesRevert (Text.withReturns c.message.toList)

instance (s : Setup) (raws : List RawCommit) : Decidable (s.RevertsNothing raws) :=
  inferInstanceAs (Decidable (∀ _ ∈ _, _))

theorem readParts_withReturns (s : Setup) {raw : RawCommit} (free : '\r' ∉ raw.message.toList)
    (silent : s.RevertsNothing [raw]) : s.readParts raw.withReturns = s.readParts raw := by
  cases Classical.em raw.IsMerge with
  | inl merge => rw [readParts, readParts, Squash.split_withReturns_of_isMerge free merge]
  | inr single =>
      have alone := Squash.split_of_not_isMerge single
      have listed : raw ∈ Squash.splitAll [raw] := by
        simp [Squash.splitAll, alone]
      obtain ⟨plain, returned⟩ := silent raw listed
      have read := s.grammar.parse_withReturns raw.hash free plain returned
      rw [readParts, readParts, Squash.split_withReturns_of_not_isMerge free single, alone]
      simp only [List.filter_cons, List.filter_nil, raw.toList_withReturns, Text.blank_withReturns]
      split
      · simp only [List.mapM_cons, List.mapM_nil]
        rw [← read]
        rfl
      · rfl

end Setup

/-- The kind of line end does not change the release. Commits whose messages have no carriage
returns, and of which none is read as a revert, come to the same release with a carriage return
before every line feed. A squash merge then holds the same commits, and every message has the same
fields. -/
theorem Config.analyze_withReturns (w : Workspace) (config : Config) {s : Setup}
    (loads : (config.prepare w).outcome = .ok s) {raws : List RawCommit}
    (free : ∀ raw ∈ raws, '\r' ∉ raw.message.toList) (silent : s.RevertsNothing raws) :
    (config.analyze w (.ok (raws.map RawCommit.withReturns))).outcome =
        (config.analyze w (.ok raws)).outcome ∧
      (∀ raw ∈ raws, (raw.IsMerge → Squash.split raw.withReturns = Squash.split raw) ∧
        (¬raw.IsMerge → Squash.split raw.withReturns = [raw.withReturns])) ∧
      ∀ (message : String) (hash : Value), '\r' ∉ message.toList →
        ¬s.grammar.MatchesRevert message.toList →
        ¬s.grammar.MatchesRevert (Text.withReturns message.toList) →
        s.grammar.parse (String.ofList (Text.withReturns message.toList)) hash =
          s.grammar.parse message hash := by
  refine ⟨?_, fun raw listed => ⟨?_, ?_⟩, fun message hash => s.grammar.parse_withReturns hash⟩
  · have each : ∀ raw ∈ raws, s.readParts raw.withReturns = s.readParts raw := by
      intro raw listed
      apply s.readParts_withReturns (free raw listed)
      intro c part
      apply silent c
      exact List.mem_flatMap.mpr ⟨raw, listed, by simpa [Squash.splitAll] using part⟩
    rw [analyze_of_loads loads, analyze_of_loads loads, s.analyze_release, s.analyze_release,
      Setup.readCommits_map each]
  · exact Squash.split_withReturns_of_isMerge (free raw listed)
  · exact Squash.split_withReturns_of_not_isMerge (free raw listed)

namespace Sample

def drastic : RawCommit :=
  ⟨"fix(api): Drop the old call\u000b\n\nBREAKING CHANGE: use the new one\n", .text "a1", false⟩

def merged : RawCommit :=
  ⟨"Squashed commit of the following:\n\ncommit b2\nAuthor: A\nDate: D\n\n    feat: More\n\n" ++
    "commit c3\nAuthor: A\nDate: D\n\n    fix: Less\n    \n    Really.\n", .text "d4", false⟩

end Sample

open Sample

theorem Config.analyze_withReturns_merged :
    ∃ s, (({} : Config).prepare noFiles).outcome = .ok s ∧
      (∀ raw ∈ [merged, drastic], '\r' ∉ raw.message.toList) ∧
      s.RevertsNothing [merged, drastic] ∧
      (({} : Config).analyze noFiles
        (.ok ([merged, drastic].map RawCommit.withReturns))).outcome = .ok (some .major) := by
  have ready : ∃ s, (({} : Config).prepare noFiles).outcome = .ok s ∧
      s.RevertsNothing [merged, drastic] := by
    decide +kernel
  obtain ⟨s, loads, silent⟩ := ready
  have free : ∀ raw ∈ [merged, drastic], '\r' ∉ raw.message.toList := by decide +kernel
  have plain : (({} : Config).analyze noFiles (.ok [merged, drastic])).outcome =
      .ok (some .major) := by
    decide +kernel
  have same := (Config.analyze_withReturns noFiles {} loads free silent).1
  exact ⟨s, loads, free, silent, same.trans plain⟩

end ReleaseAdvisor
