import ReleaseAdvisor.Event
import ReleaseAdvisor.Toml.Reader
import ReleaseAdvisor.Workspace

/-!
References by name. One with the ending of a data file stands for the data in that file; any other
one stands for a module: for the one that can be imported by that name, or else for a file at that
path, with or without its ending, or the first file of a directory there.
-/

namespace ReleaseAdvisor.Reference

def moduleEnding : String := ".py"

def isData (p : Path) : Bool := p.suffix == ".json" || p.suffix == ".toml"

def path (w : Workspace) (reference : String) : Path := w.root.join (Path.ofText reference)

def candidates (base : Path) : Except Failure (List Path) :=
  if isData base || base.suffix == moduleEnding then .ok [base]
  else if base.name.isEmpty then .error (.refusal (.emptyName base.text))
  else
    .ok [base, base.withName (base.name ++ moduleEnding), base.child ("__init__" ++ moduleEnding)]

def firstModule? (w : Workspace) : List Path → Except Failure (Option (Path × Resource))
  | [] => .ok none
  | p :: ps => do
    match ← w.file? p with
    -- A file with another ending, or with none, is passed over.
    | some r => if p.suffix == moduleEnding then return some (p, r) else firstModule? w ps
    | none => firstModule? w ps

def attributesByPath (w : Workspace) (role : Option Role) (reference : String) :
    Traced Attributes := do
  let base := path w reference
  match ← Traced.ofExcept (do firstModule? w (← candidates base)) with
  | some (p, r) => do
    Traced.say [.readingModule reference p.text]
    Traced.ofExcept r.imported.attributes
  | none => Traced.report (.moduleMissing role reference base.text)

/-- The attributes of a module. A name is imported first; a path is tried only if that fails as it
does for a name that no module has. -/
def attributes (w : Workspace) (role : Option Role) (reference : String) : Traced Attributes :=
  match w.imports reference with
  | .loaded attributes => pure attributes
  | .failed exception =>
    if exception.isCaught then attributesByPath w role reference
    else Traced.ofExcept (.error (.misuse (.raised exception)))

def readData (p : Path) (cs : List Char) : Except Failure Value :=
  if p.suffix == ".json" then
    match Json.readDocument cs with
    | .ok v => .ok v
    | .error ⟨.hugeNumber digits, _⟩ => .error (.refusal (.hugeNumber digits))
    | .error stop => .error (.report (.dataInvalid p.text (.json (stop.message cs))))
  else
    match Toml.Document.read cs with
    | .error .malformed => .error (.report (.dataInvalid p.text .toml))
    | .error (.clash clash) => .error (.misuse (.clash clash))
    | .ok document => (document.toNamed.map Value.ofNamed).mapError fun clash =>
        .misuse (.clash clash)

inductive Loaded where
  | data (value : Value)
  | code (attributes : Attributes)

def load (w : Workspace) (reference : String) : Traced Loaded := do
  let p := path w reference
  if isData p then
    match ← Traced.ofExcept (w.file? p) with
    | none => Traced.report (.fileMissing p.text)
    | some r => do
      Traced.say [.readingData reference p.text]
      return .data (← Traced.ofExcept (do readData p (← r.content.read)))
  else return .code (← attributes w none reference)

end ReleaseAdvisor.Reference
