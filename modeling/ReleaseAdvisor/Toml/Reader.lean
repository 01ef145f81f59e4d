import ReleaseAdvisor.Toml.Moment
import ReleaseAdvisor.Toml.Quoted
import ReleaseAdvisor.Toml.Table

/-!
Reading TOML documents. The text is read into statements first, entries and headers, up to its end
or to the first place where it is malformed; the statements then build tables. Which of two faults
is told depends on which comes first.
-/

namespace ReleaseAdvisor.Toml

inductive Fault where
  | malformed
  | clash (clash : Clash)
  deriving DecidableEq, Repr

def orMalformed {α : Type} : Option α → Except Fault α
  | some a => .ok a
  | none => .error .malformed

def orClash {α : Type} (result : Except Clash α) : Except Fault α := result.mapError .clash

/-- How many arrays and tables between braces may stand in one another, and how many parts a key
may have. -/
def deepest : Nat := 100

def isBareChar (c : Char) : Bool := c.isAlphanum || c == '-' || c == '_'

def skipComment (cs : List Char) : Except Fault (List Char) :=
  let comment := cs.takeWhile fun c => c != '\n' && c != '\r'
  if comment.any isControl then .error .malformed else .ok (cs.drop comment.length)

structure Key where
  first : String
  more : List String
  deriving DecidableEq, Repr

def Key.parts (key : Key) : List String := key.first :: key.more

def readPart (cs : List Char) : Except Fault (String × List Char) :=
  let cs := cs.dropWhile isSpace
  let quoted (quote : Char) (rest : List Char) : Except Fault (String × List Char) := do
    let (style, part, rest) ← orMalformed (readText? quote rest)
    if style.overLines then throw .malformed
    return (part, rest.dropWhile isSpace)
  match cs with
  | '"' :: rest => quoted '"' rest
  | '\'' :: rest => quoted '\'' rest
  | _ =>
    let inPart (c : Char) : Bool := isBareChar c || isSpace c
    let part := Text.trimChars isSpace (cs.takeWhile inPart)
    if part.isEmpty || part.any isSpace then .error .malformed
    else .ok (String.ofList part, cs.dropWhile inPart)

def readParts : Nat → List Char → Except Fault (Key × List Char)
  | 0, _ => .error .malformed
  | parts + 1, cs => do
    let (first, rest) ← readPart cs
    match rest with
    | '.' :: rest => do
      let (key, rest) ← readParts parts rest
      return (⟨first, key.parts⟩, rest)
    | rest => return (⟨first, []⟩, rest)

def readKey (cs : List Char) : Except Fault (Key × List Char) := readParts deepest cs

def skipEquals (cs : List Char) : Except Fault (List Char) :=
  let inSign (c : Char) : Bool := c == '=' || isSpace c
  if (cs.takeWhile inSign).count '=' = 1 then .ok (cs.dropWhile inSign) else .error .malformed

def endsPlain (c : Char) : Bool := [' ', '\t', '\n', '\r', '#', ',', ']', '}'].contains c

/-- A time of day may follow a date after a space. -/
def readTime (date : Moment) (raw rest : List Char) : Except Fault (Value × List Char) := do
  let inTime (c : Char) : Bool := c == ' ' || !endsPlain c
  let time := ((rest.takeWhile inTime).reverse.dropWhile Text.isBlank).reverse
  let moment ← if time.isEmpty then pure date else orMalformed (moment? (raw ++ time))
  return (.moment moment, rest.dropWhile inTime)

def readDigits (cs : List Char) : Except Fault (Value × List Char) :=
  let raw := cs.takeWhile fun c => !endsPlain c
  let rest := cs.dropWhile fun c => !endsPlain c
  match moment? raw with
  | some (.date date) => readTime (.date date) raw rest
  | some moment => .ok (.moment moment, rest)
  | none => (orMalformed (number? raw)).map fun v => (v, rest)

def readNumber (cs : List Char) : Except Fault (Value × List Char) :=
  (orMalformed (number? (cs.takeWhile fun c => !endsPlain c))).map fun v =>
    (v, cs.dropWhile fun c => !endsPlain c)

def readWord (word : String) (value : Value) (cs : List Char) : Except Fault (Value × List Char) :=
  (orMalformed (Text.after? word.toList cs)).map fun rest => (value, rest)

def isNamedNumber (cs : List Char) : Bool :=
  let raw := (cs.takeWhile fun c => !endsPlain c).take 4
  raw == "inf".toList || raw == "nan".toList

def skipBetween : Nat → List Char → Except Fault (List Char)
  | 0, cs => .ok cs
  | fuel + 1, cs => do
    match cs.dropWhile isSpaceOrLine with
    | '#' :: rest => skipBetween fuel (← skipComment rest)
    | rest => return rest

def skipLines (cs : List Char) : Except Fault (List Char) := skipBetween (cs.length + 1) cs

mutual

def readValue : Nat → Nat → List Char → Except Fault (Value × List Char)
  | 0, _, _ => .error .malformed
  | _, _, [] => .error .malformed
  | fuel + 1, depth, c :: rest =>
    match c, depth with
    | '"', _ | '\'', _ => (orMalformed (readText? c rest)).map fun (_, s, rest) => (.text s, rest)
    | 't', _ => readWord "true" (.bool true) (c :: rest)
    | 'f', _ => readWord "false" (.bool false) (c :: rest)
    | '[', depth + 1 => readItems fuel depth [] rest
    | '{', depth + 1 => readInline fuel depth [] rest
    | _, _ =>
      if c == '+' || c == '-' || isNamedNumber (c :: rest) then readNumber (c :: rest)
      else if c.isDigit then readDigits (c :: rest)
      else .error .malformed

def readItems : Nat → Nat → List Value → List Char → Except Fault (Value × List Char)
  | 0, _, _, _ => .error .malformed
  | fuel + 1, depth, items, cs => do
    match ← skipLines cs with
    | ']' :: rest => return (.list items.reverse, rest)
    | cs =>
      let (item, rest) ← readValue fuel depth cs
      match ← skipLines rest with
      | ',' :: rest => readItems fuel depth (item :: items) rest
      | ']' :: rest => return (.list (item :: items).reverse, rest)
      | _ => throw .malformed

def readInline : Nat → Nat → Table → List Char → Except Fault (Value × List Char)
  | 0, _, _, _ => .error .malformed
  | fuel + 1, depth, table, cs => do
    let finish (table : Table) (rest : List Char) : Except Fault (Value × List Char) := do
      return (.ofNamed (← orClash (table.toNamed (4 * deepest))), rest)
    match ← skipLines cs with
    | '}' :: rest => finish table rest
    | cs =>
      let (key, rest) ← readKey cs
      let (value, rest) ← readValue fuel depth (← skipEquals rest)
      let table ← orClash (table.append (4 * deepest) true (.ofKey value key.first key.more))
      match ← skipLines rest with
      | ',' :: rest => readInline fuel depth table rest
      | '}' :: rest => finish table rest
      | _ => throw .malformed

end

def endLine (cs : List Char) : Except Fault (List Char) :=
  match cs.dropWhile fun c => isSpace c || c == '\r' with
  | [] => .ok []
  | '\n' :: rest => .ok rest
  | '#' :: rest => skipComment rest
  | _ => .error .malformed

inductive Opening where
  | table
  | element
  deriving DecidableEq, Repr

inductive Statement where
  | entry (key : Key) (value : Value)
  | header (opening : Opening) (key : Key) (sound : Bool)

/-- A header, its opening bracket being read, and what is left if it is sound. The second closing
bracket of an element's header may be any character. -/
def readHeader (cs : List Char) : Except Fault (Opening × Key × Option (List Char)) := do
  let (opening, cs) := match cs with
    | '[' :: rest => (Opening.element, rest)
    | cs => (Opening.table, cs)
  let (key, rest) ← readKey cs
  match rest with
  | ']' :: rest =>
    return (opening, key, (endLine (if opening = .element then rest.drop 1 else rest)).toOption)
  | _ => return (opening, key, none)

def readStatements : Nat → List Char → List Statement × Option Fault
  | 0, _ => ([], some .malformed)
  | fuel + 1, cs =>
    let andThen (statement : Statement) (rest : List Char) : List Statement × Option Fault :=
      let (statements, ending) := readStatements fuel rest
      (statement :: statements, ending)
    match cs.dropWhile isSpaceOrLine with
    | [] => ([], none)
    | '#' :: rest =>
      match skipComment rest with
      | .ok rest => readStatements fuel rest
      | .error fault => ([], some fault)
    | '[' :: rest =>
      match readHeader rest with
      | .ok (opening, key, some rest) => andThen (.header opening key true) rest
      | .ok (opening, key, none) => ([.header opening key false], none)
      | .error fault => ([], some fault)
    | cs =>
      let entry : Except Fault (Key × Value × List Char) := do
        let (key, rest) ← readKey cs
        let (value, rest) ← readValue (2 * cs.length + 2) deepest (← skipEquals rest)
        return (key, value, ← endLine rest)
      match entry with
      | .ok (key, value, rest) => andThen (.entry key value) rest
      | .error fault => ([], some fault)

abbrev Ending := Option Fault

def Ending.result : Ending → Except Fault Unit
  | none => .ok ()
  | some fault => .error fault

def takeEntries (depth : Nat) (table : Table) :
    List Statement → Except Clash (Table × List Statement)
  | .entry key value :: rest => do
    takeEntries depth (← table.put depth true (.ofKey value key.first key.more)) rest
  | rest => .ok (table, rest)

def Entry.below (item : Item) (name : String) : List String → Entry
  | [] => (name, item)
  | next :: more => (name, .part .implied [below item next more])

def leadsTo (key below : List String) : Bool := key.isPrefixOf below && key.length < below.length

mutual

/-- What a header opens, below the table `outer` that it stands in: its own entries and the headers
below it. The elements of an array of tables that follow each other are read together, unless the
header names a table on the way. -/
def buildOpened (depth : Nat) (ending : Ending) (fuel : Nat) (outer : List String)
    (opening : Opening) (key : List String) (statements : List Statement) :
    Except Fault (Entry × List Statement) :=
  match fuel with
  | 0 => .error .malformed
  | fuel + 1 => do
    let (table, rest) ← buildTable depth ending fuel key statements
    match opening, key.drop outer.length with
    | _, [] => throw .malformed
    | .table, name :: more => return (.below (.part .header table) name more, rest)
    | .element, [name] => do
      let (tables, rest) ← buildElements depth ending fuel key rest
      return ((name, .array (table :: tables)), rest)
    | .element, name :: more => return (.below (.array [table]) name more, rest)

def buildTable (depth : Nat) (ending : Ending) (fuel : Nat) (key : List String)
    (statements : List Statement) : Except Fault (Table × List Statement) :=
  match fuel with
  | 0 => .error .malformed
  | fuel + 1 => do
    let (table, rest) ← orClash (takeEntries depth [] statements)
    let (table, rest) ← buildBelow depth ending fuel key table rest
    orClash (table.checkAll depth)
    return (table, rest)

def buildBelow (depth : Nat) (ending : Ending) (fuel : Nat) (key : List String) (table : Table)
    (statements : List Statement) : Except Fault (Table × List Statement) :=
  match fuel with
  | 0 => .error .malformed
  | fuel + 1 =>
    match statements with
    | .header opening next sound :: rest =>
      if leadsTo key next.parts then
        if sound then do
          let (entry, rest) ← buildOpened depth ending fuel key opening next.parts rest
          let table ← orClash (table.put depth false entry)
          buildBelow depth ending fuel key table rest
        else .error .malformed
      else .ok (table, statements)
    | statements => do
      ending.result
      return (table, statements)

def buildElements (depth : Nat) (ending : Ending) (fuel : Nat) (key : List String)
    (statements : List Statement) : Except Fault (List Table × List Statement) :=
  match fuel with
  | 0 => .error .malformed
  | fuel + 1 =>
    match statements with
    | .header .element next sound :: rest =>
      if next.parts == key then
        if sound then do
          let (table, rest) ← buildTable depth ending fuel key rest
          let (tables, rest) ← buildElements depth ending fuel key rest
          return (table :: tables, rest)
        else .error .malformed
      else .ok ([], statements)
    | statements => .ok ([], statements)

end

/-- Puts entries and what headers open to the document itself, where a clash counts as
malformed. -/
def buildDocument (depth : Nat) (ending : Ending) (fuel : Nat) (table : Table)
    (statements : List Statement) : Except Fault Table :=
  let put (entry : Entry) : Except Fault Table :=
    (table.append depth true entry).mapError fun _ => .malformed
  match fuel with
  | 0 => .error .malformed
  | fuel + 1 =>
    match statements with
    | [] => do
      ending.result
      return table
    | .entry key value :: rest => do
      buildDocument depth ending fuel (← put (.ofKey value key.first key.more)) rest
    | .header opening key sound :: rest =>
      if sound then do
        let (entry, rest) ← buildOpened depth ending fuel [] opening key.parts rest
        buildDocument depth ending fuel (← put entry) rest
      else .error .malformed

structure Document where
  table : Table
  depth : Nat

namespace Document

def read (cs : List Char) : Except Fault Document := do
  let (statements, ending) := readStatements (cs.length + 1) cs
  let depth := 4 * (cs.length + 1)
  return ⟨← buildDocument depth ending (4 * statements.length + 4) [] statements, depth⟩

def toNamed (document : Document) : Except Clash (List (String × Value)) :=
  document.table.toNamed document.depth

end Document
end ReleaseAdvisor.Toml
