import ReleaseAdvisor.Analysis
import ReleaseAdvisor.Commit.Input
import ReleaseAdvisor.CommandLine.Request
import ReleaseAdvisor.Json.Writer

/-!
Runs of the program. A run ends with a status, an output and an error text, or breaks off at a
value that no operation can take; its events are told as far as it was asked for them.
-/

namespace ReleaseAdvisor.CommandLine

inductive Ending where
  | finished (status : Nat) (output errors : String)
  | brokenOff (failure : Failure)

structure Run where
  events : List Event
  ending : Ending

def version : String := "commit-analyzer 0.1.0"

def usage : String :=
  "usage: commit-analyzer [-h] [--version] [-v] [-q] [--json-log] \x7banalyze,explain\x7d ..."

def Verbosity.tells (v : Verbosity) (e : Event) : Bool :=
  match v with
  | .quiet => false
  | .usual => e.level == .info
  | .verbose => true

namespace AnalyzeRequest

def readSource (r : AnalyzeRequest) (w : Workspace) (input : String) : Except Failure String :=
  if r.source == "-" then .ok (String.ofList (Text.unifyLineFeeds input.toList))
  else
    let p := Path.ofText r.source
    if Workspace.hasZero p then .error (.refusal .zeroInPath)
    else
      match w.locate p with
      | .ok ⟨.denied, _⟩ => .error (.report (.commitsUnreadable r.source p.text .denied))
      | .ok resource => String.ofList <$> resource.content.read
      | .error fault => .error (.report (.commitsUnreadable r.source p.text fault))

/-- A configuration with what the command line says instead; what it leaves empty stays. -/
def override (r : AnalyzeRequest) (config : Config) : Config :=
  { config with
    preset := (Grammar.given? r.preset).orElse fun _ => config.preset
    grammar := (Grammar.given? r.grammar).orElse fun _ => config.grammar
    rules := ((Grammar.given? r.releaseRules).map .text).getD config.rules
    initial := if r.initialPhase then some true else config.initial }

def answer (r : AnalyzeRequest) (release : Option Release) (count : Nat) : String :=
  if r.json then
    Json.write (.ofNamed [
      ("release", Event.textOrNull (release.map Release.name)), ("commits", .int count)]) ++ "\n"
  else (release.map Release.name).getD "none" ++ "\n"

/-- The configuration is loaded before the commits are read, and its rules and grammar after
that. -/
def run (r : AnalyzeRequest) (w : Workspace) (input : String) : Traced String := do
  let config ← Config.load w (r.configFile.map Path.ofText)
  let text ← Traced.ofExcept (r.readSource w input)
  let submissions ← Traced.ofExcept (Submission.readAll text)
  let release ← (r.override config).analyze w (submissions.mapM Submission.commit)
  return r.answer release submissions.length

end AnalyzeRequest

def Ending.ofOutcome : Except Failure String → Ending
  | .ok output => .finished 0 output ""
  | .error (.report report) => .finished 1 "" report.rendered
  | .error failure => .brokenOff failure

def Request.run (r : Request) (w : Workspace) (input : String) : Run :=
  match r.command with
  | .analyze request =>
    let traced := request.run w input
    ⟨traced.events.filter r.verbosity.tells, .ofOutcome traced.outcome⟩
  | .explain code =>
    match explain code with
    | some text => ⟨[], .finished 0 (text ++ "\n") ""⟩
    | none => ⟨[], .finished 1 ("Unknown error code: " ++ code ++ "\n") ""⟩

/-- The paths of the files that an analysis looks at, as far as the files already known tell. -/
def AnalyzeRequest.paths (r : AnalyzeRequest) (w : Workspace) : List Path :=
  let configFile := (r.configFile.map Path.ofText).getD (w.root.child Config.fileName)
  let source := if r.source == "-" then [] else [Path.ofText r.source]
  match (Config.load w (r.configFile.map Path.ofText)).outcome with
  | .error _ => configFile :: source
  | .ok config =>
    let config := r.override config
    let rules := match config.rules with
      | .text reference => [reference]
      | _ => []
    let presetModule := (Grammar.given? config.preset).map Grammar.presetModule
    let references := rules ++ presetModule.toList ++ (Grammar.given? config.grammar).toList
    configFile :: source ++ references.flatMap fun reference =>
      ((Reference.candidates (Reference.path w reference)).toOption).getD []

def paths (w : Workspace) (args : List String) : List Path :=
  match Request.ofArgs args with
  | .ok ⟨_, _, .analyze request⟩ => request.paths w
  | _ => []

/-- Runs the program with its arguments and its input. -/
def run (w : Workspace) (args : List String) (input : String) : Run :=
  match Request.ofArgs args with
  | .ok request => request.run w input
  | .error .help => ⟨[], .finished 0 (usage ++ "\n") ""⟩
  | .error .version => ⟨[], .finished 0 (version ++ "\n") ""⟩
  | .error .usage => ⟨[], .finished 2 "" (usage ++ "\n")⟩

end ReleaseAdvisor.CommandLine
