import ReleaseAdvisor.Report

/-!
What an analysis may look at: the modules that can be imported by name, and the files below one
directory. What lies above it is not known and counts as empty. Files and directories may be closed
to the reader. A module is known by what importing it comes to.
-/

namespace ReleaseAdvisor

inductive Attribute where
  | data (value : Value)
  | call (result : Except Exception Value)

abbrev Attributes := List (String × Attribute)

inductive Import where
  | loaded (attributes : Attributes)
  | failed (exception : Exception)

def Import.attributes : Import → Except Failure Attributes
  | .loaded attributes => .ok attributes
  | .failed exception => .error (.misuse (.raised exception))

/-- What a file holds: text, bytes that write none, told in the words of the decoder, or what the
reader has no access to. -/
inductive Content where
  | text (text : String)
  | undecodable (words : String)
  | denied

def Content.read : Content → Except Failure (List Char)
  | .text s => .ok (Text.unifyLineFeeds s.toList)
  | .undecodable words => .error (.refusal (.undecodable words))
  | .denied => .error (.misuse .system)

/-- A file, with what importing it as a module comes to. -/
structure Resource where
  content : Content
  imported : Import := .failed (.other "SyntaxError")

structure Workspace where
  root : Path
  files : List (List String × Resource)
  closed : List (List String) := []
  imports : String → Import := fun _ => .failed .moduleMissing

namespace Workspace

inductive Spot where
  | below (parts : List String)
  | above
  deriving DecidableEq, Repr

def resource? (w : Workspace) (parts : List String) : Option Resource := w.files.lookup parts

/-- A directory is there if it is the root or leads to a file. -/
def isDirectory (w : Workspace) (parts : List String) : Bool :=
  parts.isEmpty || w.files.any fun file =>
    parts.isPrefixOf file.1 && parts.length < file.1.length

def longestName : Nat := 255

def longestPath : Nat := 4095

def step (w : Workspace) (spot : Spot) (part : String) : Except ReadFault Spot :=
  match spot with
  | .above =>
    if part == ".." then .ok .above
    else if part.utf8ByteSize > longestName then .error .nameTooLong
    else .error .missing
  | .below parts =>
    if !w.isDirectory parts then .error .notDirectory
    else if w.closed.contains parts then .error .denied
    else if part == ".." then .ok (if parts.isEmpty then .above else .below parts.dropLast)
    else if part.utf8ByteSize > longestName then .error .nameTooLong
    else
      let next := parts ++ [part]
      if (w.resource? next).isSome || w.isDirectory next then .ok (.below next)
      else .error .missing

def start (w : Workspace) (p : Path) : Spot × List String :=
  if p.root == w.root.root && w.root.parts.isPrefixOf p.parts then
    (.below [], p.parts.drop w.root.parts.length)
  else if p.root.isEmpty then (.below [], p.parts)
  else (.above, p.parts)

def locate (w : Workspace) (p : Path) : Except ReadFault Resource := do
  if p.text.utf8ByteSize > longestPath then throw .nameTooLong
  let (spot, parts) := w.start p
  match ← parts.foldlM w.step spot with
  | .above => throw .directory
  | .below parts =>
    match w.resource? parts with
    | some r => return r
    | none => throw .directory

def hasZero (p : Path) : Bool := p.parts.any fun part => part.contains (Char.ofNat 0)

/-- The file at a path, if there is one. A name that is too long cannot be asked for, nor one in a
directory that is closed. -/
def file? (w : Workspace) (p : Path) : Except Failure (Option Resource) :=
  if hasZero p then .ok none
  else
    match w.locate p with
    | .ok r => .ok (some r)
    | .error .nameTooLong | .error .denied => .error (.misuse .system)
    | .error _ => .ok none

end Workspace
end ReleaseAdvisor
