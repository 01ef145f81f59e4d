import ReleaseAdvisor.Text.Class

/-!
Paths by their parts. Reading a path drops empty parts and single dots and keeps double dots; one
written from a root replaces the path it is put to.
-/

namespace ReleaseAdvisor

structure Path where
  root : String
  parts : List String
  deriving DecidableEq, Repr

namespace Path

/-- The root of a written path. Exactly two slashes are a root of their own. -/
def rootOf : List Char → String
  | '/' :: '/' :: '/' :: _ => "/"
  | '/' :: '/' :: _ => "//"
  | '/' :: _ => "/"
  | _ => ""

def ofText (s : String) : Path :=
  let parts := (Text.splitAt (· == '/') s.toList).filter fun part => part ≠ [] && part ≠ ['.']
  ⟨rootOf s.toList, parts.map String.ofList⟩

def text (p : Path) : String :=
  if p.root.isEmpty && p.parts.isEmpty then "." else p.root ++ "/".intercalate p.parts

def join (p q : Path) : Path := if q.root.isEmpty then ⟨p.root, p.parts ++ q.parts⟩ else q

def child (p : Path) (name : String) : Path := ⟨p.root, p.parts ++ [name]⟩

def name (p : Path) : String := p.parts.getLastD ""

/-- The end of the last part from its last dot on, if something stands before and after the dot. -/
def suffix (p : Path) : String :=
  let cs := p.name.toList
  let ending := cs.reverse.takeWhile (· != '.')
  if ending.isEmpty || ending.length + 1 ≥ cs.length then ""
  else String.ofList ('.' :: ending.reverse)

def withName (p : Path) (name : String) : Path := ⟨p.root, p.parts.dropLast ++ [name]⟩

end Path
end ReleaseAdvisor
