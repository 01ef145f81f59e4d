import ReleaseAdvisor.Event
import ReleaseAdvisor.Grammar.Key
import ReleaseAdvisor.Text.Similar
import ReleaseAdvisor.Toml.Reader
import ReleaseAdvisor.Workspace

/-!
The options of an analysis. They come from a mapping or from a file in the working directory; the
first option that is unknown or of a wrong kind is reported.
-/

namespace ReleaseAdvisor

/-- The options of an analysis: the name of a known grammar, the module of another one, options put
over the grammar's, the user's own rules or where to find them, and whether the project is in
initial development. -/
structure Config where
  preset : Option String := none
  grammar : Option String := none
  parserMapping : Option Entries := none
  rules : Value := .null
  initial : Option Bool := some false
  path : Option Path := none

namespace Config

def parserOptions (config : Config) : Option (List (String × Value)) :=
  config.parserMapping.map fun entries => (Value.mapping entries).named?.getD []

def set (source : String) (config : Config) (written : String) (value : Value) :
    Except Failure Config :=
  let wrong (key expected : String) : Except Failure Config :=
    .error (.report (.wrongKind key expected value.kindName source))
  match Grammar.normalizeKey written with
  | "preset" =>
    match value with
    | .null => .ok { config with preset := none }
    | .text s => .ok { config with preset := some s }
    | _ => wrong "preset" "str"
  | "config" =>
    match value with
    | .null => .ok { config with grammar := none }
    | .text s => .ok { config with grammar := some s }
    | _ => wrong "config" "str"
  | "initial_phase" =>
    match value with
    | .null => .ok { config with initial := none }
    | .bool b => .ok { config with initial := some b }
    | _ => wrong "initial_phase" "bool"
  | "parser_opts" =>
    match value with
    | .null => .ok { config with parserMapping := none }
    | .mapping entries => .ok { config with parserMapping := some entries }
    | _ => wrong "parser_opts" "Mapping"
  | "release_rules" => .ok { config with rules := value }
  | key =>
    .error (.report (.unknownKey written source (Text.closest? Report.validKeys key)))

def ofEntries (source : String) (entries : List (String × Value)) : Except Failure Config :=
  entries.foldlM (fun config (key, value) => set source config key value) {}

def ofGiven (entries : List (String × Value)) : Except Failure Config :=
  ofEntries "the analyzer options" entries

/-- The options in the text of a file. Tables that do not go together are a misuse only if they
were read without a fault. -/
def ofFile (p : Path) (cs : List Char) : Except Failure Config :=
  match Toml.Document.read cs with
  | .error _ => .error (.report (.configUnreadable p.text))
  | .ok document => do
    let entries ← document.toNamed.mapError fun clash => .misuse (.clash clash)
    let config ← ofEntries p.text entries
    return { config with path := some p }

def fileName : String := "commit-analyzer.toml"

/-- The options in a file: in the one asked for, which has to be there, or else in the one of the
usual name. -/
def load (w : Workspace) (asked : Option Path) : Traced Config := do
  let p := asked.getD (w.root.child fileName)
  match ← Traced.ofExcept (w.file? p) with
  | some r =>
    match r.content with
    | .denied => Traced.report (.configDenied p.text)
    | content => Traced.ofExcept (do ofFile p (← content.read))
  | none =>
    if asked.isSome then Traced.report (.configMissing p.text)
    else do
      Traced.say [.configAbsent p.text]
      return {}

def isInitial (config : Config) : Bool := config.initial == some true

end Config
end ReleaseAdvisor
