import ReleaseAdvisor.Text.Class

/-!
Arguments of a command line. Options may stand anywhere, be shortened to a start that no other
option has, carry their value after an equals sign, and, if they have one letter, stand together;
two hyphens end them. The first option that asks for help or for the version ends the reading.
-/

namespace ReleaseAdvisor.CommandLine

inductive Flag where
  | help
  | version
  | verbose
  | quiet
  | jsonLog
  | configFile
  | preset
  | grammar
  | releaseRules
  | initialPhase
  | json
  deriving DecidableEq, Repr

namespace Flag

def names : Flag → List String
  | .help => ["-h", "--help"]
  | .version => ["--version"]
  | .verbose => ["--verbose", "-v"]
  | .quiet => ["--quiet", "-q"]
  | .jsonLog => ["--json-log"]
  | .configFile => ["--config-file"]
  | .preset => ["--preset"]
  | .grammar => ["--grammar"]
  | .releaseRules => ["--release-rules"]
  | .initialPhase => ["--initial-phase"]
  | .json => ["--json"]

def takesValue : Flag → Bool
  | .configFile | .preset | .grammar | .releaseRules => true
  | _ => false

end Flag

/-- How many arguments other than options there are: a command with all that follows it, one, or at
most one. -/
inductive Wanted where
  | command
  | one
  | atMostOne
  deriving DecidableEq, Repr

structure Shape where
  flags : List Flag
  wanted : Wanted

inductive Stop where
  | help
  | version
  | usage
  deriving DecidableEq, Repr

inductive Attached where
  | value (text : List Char)
  | letters (text : List Char)
  deriving DecidableEq, Repr

inductive Token where
  | value (s : String)
  | option (flag : Flag) (attached : Option Attached)
  | unknown (s : String)
  | endOfOptions
  deriving DecidableEq, Repr

namespace Shape

def flag? (shape : Shape) (name : List Char) : Option Flag :=
  shape.flags.find? fun f => f.names.any fun n => n.toList == name

def formsWith (shape : Shape) (test : List Char → Bool) : List Flag :=
  shape.flags.flatMap fun f => (f.names.filter fun n => test n.toList).map fun _ => f

/-- Minus and digits, with a point before the last ones or without. A line feed may follow. -/
def isNegativeNumber : List Char → Bool
  | '-' :: rest =>
    let rest := if rest.getLast? == some '\n' then rest.dropLast else rest
    let whole := rest.takeWhile Text.isDecimalDigit
    match rest.dropWhile Text.isDecimalDigit with
    | [] => !whole.isEmpty
    | '.' :: fraction => !fraction.isEmpty && fraction.all Text.isDecimalDigit
    | _ => false
  | _ => false

def cutEquals (cs : List Char) : List Char × Option (List Char) :=
  match cs.dropWhile (· != '=') with
  | [] => (cs, none)
  | _ :: rest => (cs.takeWhile (· != '='), some rest)

def isLong (cs : List Char) : Bool := "--".toList.isPrefixOf cs

def meanings (shape : Shape) (cs : List Char) : List (Flag × Option Attached) :=
  if isLong cs then
    let (start, value?) := cutEquals cs
    (shape.formsWith fun name => start.isPrefixOf name).map fun f => (f, value?.map .value)
  else
    (shape.formsWith fun name => name == cs.take 2).map fun f => (f, some (.letters (cs.drop 2)))

def written? (shape : Shape) (cs : List Char) : Option Token :=
  match shape.flag? cs with
  | some f => some (.option f none)
  | none => do
    let (name, value?) := cutEquals cs
    let value ← value?
    let f ← shape.flag? name
    return .option f (some (if isLong name then .value value else .letters value))

def token (shape : Shape) (arg : String) : Except Stop Token :=
  let cs := arg.toList
  if cs.head? != some '-' || cs.length = 1 then .ok (.value arg)
  else
    match shape.written? cs with
    | some t => .ok t
    | none =>
      match shape.meanings cs with
      | [(f, attached)] => .ok (.option f attached)
      | [] => .ok (if isNegativeNumber cs || cs.contains ' ' then .value arg else .unknown arg)
      | _ => .error .usage

/-- The tokens of all arguments with the arguments themselves; after two hyphens every argument is
a value. -/
def tokens (shape : Shape) : List String → Except Stop (List (Token × String))
  | [] => .ok []
  | arg :: rest =>
    if arg == "--" then .ok ((.endOfOptions, arg) :: rest.map fun s => (.value s, s))
    else do
      let t ← shape.token arg
      return (t, arg) :: (← shape.tokens rest)

end Shape

structure Given where
  flags : List (Flag × String) := []
  values : Option (List String) := none
  others : Bool := false
  deriving DecidableEq, Repr

namespace Given

/-- Notes an option; one that asks for something else ends the reading. -/
def note (given : Given) (f : Flag) (value : String) : Except Stop Given :=
  match f with
  | .help => .error .help
  | .version => .error .version
  | f => .ok { given with flags := given.flags ++ [(f, value)] }

def noteAll (given : Given) (flags : List Flag) : Except Stop Given :=
  flags.foldlM (fun given f => given.note f "") given

def value? (given : Given) (f : Flag) : Option String :=
  (given.flags.reverse.find? fun e => e.1 == f).map (·.2)

def has (given : Given) (f : Flag) : Bool := (given.value? f).isSome

end Given

namespace Shape

def letters (shape : Shape) (text : List Char) : Except Stop (List Flag) :=
  match text.mapM fun c => shape.flag? ['-', c] with
  | some (f :: flags) => .ok (f :: flags)
  | _ => .error .usage

def noteAttached (shape : Shape) (given : Given) (f : Flag) : Attached → Except Stop Given
  | .value text =>
    if f.takesValue then given.note f (String.ofList text) else .error .usage
  | .letters text => do given.noteAll (f :: (← shape.letters text))

/-- Reads tokens. A first value that is no command may be followed by two hyphens, which then are
not read as anything else. -/
def read (shape : Shape) (given : Given) : List (Token × String) → Except Stop Given
  | [] => .ok given
  | (.option f (some attached), _) :: rest => do
    shape.read (← shape.noteAttached given f attached) rest
  | (.option f none, _) :: rest =>
    if f.takesValue then
      match rest with
      | (.value s, _) :: rest => do shape.read (← given.note f s) rest
      | _ => .error .usage
    else do shape.read (← given.note f "") rest
  | (.unknown _, _) :: rest => shape.read { given with others := true } rest
  | (.value s, _) :: rest =>
    if given.values.isSome then shape.read { given with others := true } rest
    else if shape.wanted = .command then .ok { given with values := some (s :: rest.map (·.2)) }
    else
      let given := { given with values := some [s] }
      match rest with
      | (.endOfOptions, _) :: rest => shape.read given rest
      | rest => shape.read given rest
  | (.endOfOptions, _) :: rest =>
    match given.values, shape.wanted, rest with
    | none, .command, _ => .error .usage
    | none, .atMostOne, [] => .ok { given with values := some [] }
    | none, .atMostOne, (_, s) :: rest | none, .one, (_, s) :: rest =>
      shape.read { given with values := some [s] } rest
    | _, _, rest => shape.read { given with others := true } rest

end Shape
end ReleaseAdvisor.CommandLine
