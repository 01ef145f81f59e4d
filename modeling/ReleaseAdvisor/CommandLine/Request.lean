import ReleaseAdvisor.CommandLine.Arguments

/-!
What a command line asks for. Options of the program stand before its command, those of a command
after it.
-/

namespace ReleaseAdvisor.CommandLine

inductive Verbosity where
  | quiet
  | usual
  | verbose
  deriving DecidableEq, Repr

structure AnalyzeRequest where
  source : String := "-"
  configFile : Option String := none
  preset : Option String := none
  grammar : Option String := none
  releaseRules : Option String := none
  initialPhase : Bool := false
  json : Bool := false
  deriving DecidableEq, Repr

inductive Command where
  | analyze (request : AnalyzeRequest)
  | explain (code : String)
  deriving DecidableEq, Repr

structure Request where
  verbosity : Verbosity
  jsonLog : Bool
  command : Command
  deriving DecidableEq, Repr

def programShape : Shape := ⟨[.help, .version, .verbose, .quiet, .jsonLog], .command⟩

def analyzeShape : Shape :=
  ⟨[.help, .configFile, .preset, .grammar, .releaseRules, .initialPhase, .json], .atMostOne⟩

def explainShape : Shape := ⟨[.help], .one⟩

def Shape.readAll (shape : Shape) (args : List String) : Except Stop Given := do
  shape.read {} (← shape.tokens args)

def AnalyzeRequest.ofGiven (given : Given) : AnalyzeRequest :=
  { source := ((given.values.getD []).head?).getD "-"
    configFile := given.value? .configFile
    preset := given.value? .preset
    grammar := given.value? .grammar
    releaseRules := given.value? .releaseRules
    initialPhase := given.has .initialPhase
    json := given.has .json }

/-- Nothing is told but warnings if both are asked for. -/
def Verbosity.ofGiven (given : Given) : Verbosity :=
  if given.has .quiet then .quiet else if given.has .verbose then .verbose else .usual

def Command.ofArgs (name : String) (args : List String) : Except Stop (Command × Bool) :=
  if name == "analyze" then do
    let given ← analyzeShape.readAll args
    return (.analyze (.ofGiven given), given.others)
  else if name == "explain" then do
    let given ← explainShape.readAll args
    match given.values with
    | some [code] => return (.explain code, given.others)
    | _ => throw .usage
  else .error .usage

def Request.ofArgs (args : List String) : Except Stop Request := do
  let given ← programShape.readAll args
  match given.values with
  | some (name :: args) =>
    let (command, others) ← Command.ofArgs name args
    if given.others || others then throw .usage
    return ⟨.ofGiven given, given.has .jsonLog, command⟩
  | _ => throw .usage

end ReleaseAdvisor.CommandLine
