import ReleaseAdvisor.Commit.Squash

/-!
What an analysis reports on its way. An event has a level, a source, a form of words with
arguments, and details under names. A traced result keeps the events up to its end, whether it has
a value or failed.
-/

namespace ReleaseAdvisor

inductive Level where
  | debug
  | info
  deriving DecidableEq, Repr

def Level.name : Level → String
  | .debug => "debug"
  | .info => "info"

inductive Event where
  | configAbsent (path : String)
  | readingData (reference path : String)
  | readingModule (reference path : String)
  | rulesLoaded (reference : String) (count : Nat)
  | grammarLoaded (preset grammar : Option String)
  | squashKept (hash : Value) (flaw : Squash.Flaw)
  | squashSplit (hash : Value) (count : Nat)
  | revertedLeftOut (hash header : Value)
  | skipped (hash : Value) (refusal : Refusal)
  | analyzing (message : String)
  | releaseFound (release : Release)
  | noRelease
  | complete (count : Nat) (release : Option Release)

namespace Event

def level : Event → Level
  | .configAbsent _ | .readingData _ _ | .readingModule _ _ | .rulesLoaded _ _
  | .grammarLoaded _ _ | .squashKept _ _ | .squashSplit _ _ | .revertedLeftOut _ _ => .debug
  | .skipped _ _ | .analyzing _ | .releaseFound _ | .noRelease | .complete _ _ => .info

def source : Event → String
  | .configAbsent _ => "commit_analyzer.config"
  | .readingData _ _ | .readingModule _ _ => "commit_analyzer.loader"
  | .rulesLoaded _ _ => "commit_analyzer.rules"
  | .grammarLoaded _ _ => "commit_analyzer.parser_config"
  | .squashKept _ _ | .squashSplit _ _ => "commit_analyzer.squash"
  | .revertedLeftOut _ _ => "commit_analyzer.analyzer"
  | .skipped _ _ | .analyzing _ | .releaseFound _ | .noRelease | .complete _ _ =>
    "commit_analyzer"

def form : Event → String
  | .configAbsent _ => "no_commit_analyzer_config"
  | .readingData _ _ => "loading data file"
  | .readingModule _ _ => "loading module from path"
  | .rulesLoaded _ _ => "loaded release rules"
  | .grammarLoaded _ _ => "loaded parser options"
  | .squashKept _ _ => "not splitting squash merge"
  | .squashSplit _ _ => "split squash merge"
  | .revertedLeftOut _ _ => "skipping reverted commit"
  | .skipped _ _ => "Skipping commit %s: %s"
  | .analyzing _ => "Analyzing commit: %s"
  | .releaseFound _ => "The release type for the commit is %s"
  | .noRelease => "The commit should not trigger a release"
  | .complete _ _ => "Analysis of %s commits complete: %s release"

def arguments : Event → List Value
  | .skipped hash refusal =>
    [if hash.truthy then hash else .text "(no hash)", .text refusal.message]
  | .analyzing message => [.text message]
  | .releaseFound release => [.text release.name]
  | .complete count release => [.int count, .text ((release.map Release.name).getD "no")]
  | _ => []

def textOrNull (s : Option String) : Value := (s.map Value.text).getD .null

def details : Event → List (String × Value)
  | .configAbsent path => [("path", .text path)]
  | .readingData reference path | .readingModule reference path =>
    [("reference", .text reference), ("path", .text path)]
  | .rulesLoaded reference count => [("reference", .text reference), ("count", .int count)]
  | .grammarLoaded preset grammar =>
    [("preset", textOrNull preset), ("config", textOrNull grammar)]
  | .squashKept hash flaw => [("hash", hash), ("reason", .text flaw.message)]
  | .squashSplit hash count => [("hash", hash), ("count", .int count)]
  | .revertedLeftOut hash header => [("hash", hash), ("header", header)]
  | .skipped _ _ | .analyzing _ | .releaseFound _ | .noRelease | .complete _ _ => []

def fill : List Char → List Value → List Char
  | '%' :: 's' :: rest, v :: vs => v.shown.toList ++ fill rest vs
  | c :: rest, vs => c :: fill rest vs
  | [], _ => []

def text (e : Event) : String := String.ofList (fill e.form.toList e.arguments)

def record (e : Event) : Value :=
  .ofNamed ([("event", .text e.text), ("level", .text e.level.name),
    ("logger", .text e.source)] ++ e.details)

end Event

/-- A result with the events on the way to it. -/
structure Traced (α : Type) where
  events : List Event
  outcome : Except Failure α

namespace Traced

def fail {α : Type} (failure : Failure) : Traced α := ⟨[], .error failure⟩

def report {α : Type} (r : Report) : Traced α := fail (.report r)

def ofExcept {α : Type} (outcome : Except Failure α) : Traced α := ⟨[], outcome⟩

def say (events : List Event) : Traced Unit := ⟨events, .ok ()⟩

def andThen {α β : Type} (t : Traced α) (next : α → Traced β) : Traced β :=
  match t.outcome with
  | .ok a => ⟨t.events ++ (next a).events, (next a).outcome⟩
  | .error e => ⟨t.events, .error e⟩

instance : Monad Traced where
  pure a := ⟨[], .ok a⟩
  bind := andThen

end Traced
end ReleaseAdvisor
