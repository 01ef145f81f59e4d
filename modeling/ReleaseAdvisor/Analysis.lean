import ReleaseAdvisor.Commit.Parse
import ReleaseAdvisor.Commit.Revert
import ReleaseAdvisor.Event
import ReleaseAdvisor.Grammar.Source
import ReleaseAdvisor.Rule.Default
import ReleaseAdvisor.Rule.Source

/-!
The analysis of commits. Squash merges are split, messages are read, reverted commits are left out
with their reverts, and the most severe of the decisions for the others is the release. Once it is
`major` no further commit is looked at.
-/

namespace ReleaseAdvisor

structure Setup where
  rules : Option RuleSet
  grammar : Grammar
  initial : Bool

def Config.prepare (w : Workspace) (config : Config) : Traced Setup := do
  -- Rules first: if both are wrong, they are what is reported.
  let rules ← RuleSet.load w config.rules
  let options ← Grammar.loadOptions w config
  return ⟨rules, ← Traced.ofExcept (Grammar.compile options), config.isInitial⟩

structure Analysis where
  events : List Event
  release : Option Release

structure Reading where
  raw : RawCommit
  commit : Except Refusal Commit

/-- A raw commit with the commit read from it, and a mark that tells it from all others. -/
structure Parsed where
  mark : Nat
  raw : RawCommit
  commit : Commit

def Parsed.marked (p : Parsed) : Marked := ⟨p.mark, p.commit⟩

def Squash.events (c : RawCommit) : List Event :=
  match outcome c.message.toList with
  | .plain => []
  | .flawed flaw => [.squashKept c.hash flaw]
  | .commits commits => [.squashSplit c.hash commits.length]

namespace Reading

def ofCommit (g : Grammar) (raw : RawCommit) : Except Failure Reading :=
  match g.parse raw.message raw.hash with
  | .ok commit => .ok ⟨raw, .ok commit⟩
  | .error (.refusal refusal) => .ok ⟨raw, .error refusal⟩
  | .error failure => .error failure

def parsedFrom (mark : Nat) : List Reading → List Parsed
  | [] => []
  | ⟨raw, .ok commit⟩ :: rest => ⟨mark, raw, commit⟩ :: parsedFrom (mark + 1) rest
  | ⟨_, .error _⟩ :: rest => parsedFrom mark rest

def skips (readings : List Reading) : List Event :=
  readings.filterMap fun r => match r.commit with
    | .ok _ => none
    | .error refusal => some (.skipped r.raw.hash refusal)

end Reading

namespace Analysis

def after (events : List Event) (a : Analysis) : Analysis := ⟨events ++ a.events, a.release⟩

end Analysis

namespace Setup

def decide (s : Setup) (commit : Commit) : Decision :=
  (RuleSet.decideFor s.rules commit).demoteIf s.initial

def raise (best : Option Release) (release : Release) : Option Release :=
  if best.all fun b => release.rank < b.rank then some release else best

/-- Goes through the commits with the most severe release so far, up to the first `major`. Those
that `isKept` does not name are left out. -/
def decideAll (s : Setup) (isKept : Nat → Bool) (best : Option Release) : List Parsed → Analysis
  | [] => ⟨[], best⟩
  | p :: rest =>
    if !isKept p.mark then
      (s.decideAll isKept best rest).after [.revertedLeftOut p.raw.hash (p.commit.field "header")]
    else
      match (s.decide p.commit).release? with
      | some release =>
        let best := raise best release
        let events := [.analyzing p.raw.message, .releaseFound release]
        if best = some .major then ⟨events, best⟩ else (s.decideAll isKept best rest).after events
      | none => (s.decideAll isKept best rest).after [.analyzing p.raw.message, .noRelease]

def readAll (s : Setup) (commits : List RawCommit) :
    Except Failure (List Event × List Parsed × List Nat) := do
  let readings ← commits.mapM (Reading.ofCommit s.grammar)
  let parsed := Reading.parsedFrom 0 readings
  let kept ← Marked.withoutReverted (parsed.map Parsed.marked)
  return (Reading.skips readings, parsed, kept.map (·.mark))

def analyze (s : Setup) (commits : List RawCommit) : Except Failure Analysis := do
  let split := Squash.splitAll commits
  let (skips, parsed, kept) ← s.readAll split
  let decided := s.decideAll kept.contains none parsed
  return ⟨commits.flatMap Squash.events ++ skips ++ decided.events ++
    [.complete split.length decided.release], decided.release⟩

end Setup

def RawCommit.ofValue (v : Value) : Except Failure RawCommit := do
  (← Submission.ofValue v).commit

/-- The release for some commits under a configuration. No commit is looked at before all of the
configuration is loaded. -/
def Config.analyze (w : Workspace) (config : Config) (commits : Except Failure (List RawCommit)) :
    Traced (Option Release) := do
  let setup ← config.prepare w
  let analysis ← Traced.ofExcept (do setup.analyze (← commits))
  Traced.say analysis.events
  return analysis.release

end ReleaseAdvisor
