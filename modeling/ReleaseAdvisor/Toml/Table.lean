import ReleaseAdvisor.Value

/-!
Tables as a document writes them. A table may be written in parts, by dotted keys and by headers
that lie apart; the parts stay as they are written and are joined when the values are asked for. A
value stands alone under its key, and the elements of an array of tables stand together.
-/

namespace ReleaseAdvisor.Toml

/-- How a part of a table came about: on the way to another table, by a dotted key, or by a header
of its own. -/
inductive Origin where
  | implied
  | dotted
  | header
  deriving DecidableEq, Repr

inductive Item where
  | value (value : Value)
  | part (origin : Origin) (entries : List (String × Item))
  | array (elements : List (List (String × Item)))

/-- Why items do not go together under one key: the key is given again, or a header and a dotted
key both make the same table. -/
inductive Clash where
  | repeatedKey
  | redefinedTable
  deriving DecidableEq, Repr

abbrev Entry := String × Item

abbrev Table := List Entry

def Entry.ofKey (value : Value) (name : String) : List String → Entry
  | [] => (name, .value value)
  | next :: more => (name, .part .dotted [ofKey value next more])

def Item.entries : Item → List Entry
  | .part _ entries => entries
  | _ => []

namespace Table

def itemsAt (table : Table) (key : String) : List Item :=
  table.filterMap fun (k, item) => if k == key then some item else none

def keys (table : Table) : List String := (table.map (·.1)).eraseDups

def lastPart? (table : Table) : Option String :=
  table.reverse.findSome? fun
    | (key, .part _ _) => some key
    | _ => none

def replaceLast (table : Table) (key : String) (item : Item) : Table :=
  match table.reverse.span fun e => e.1 != key with
  | (after, _ :: before) => before.reverse ++ (key, item) :: after.reverse
  | _ => table

/-- Puts an entry at the end. What was the last under its key has to be a part of a table. -/
def place (table : Table) (entry : Entry) : Except Clash Table :=
  match (table.itemsAt entry.1).getLast? with
  | none | some (.part _ _) => .ok (table ++ [entry])
  | some _ => .error .repeatedKey

mutual

/-- Puts an entry to a table whose nesting is less than `depth`. Parts of a table that follow each
other become one, others stay apart; `strict` has them checked against each other. -/
def append (depth : Nat) (strict : Bool) (table : Table) (entry : Entry) : Except Clash Table :=
  match depth with
  | 0 => .error .repeatedKey
  | depth + 1 => do
    let (key, item) := entry
    let items := table.itemsAt key
    if items.length > 1 then discard (join depth items)
    let apart : Except Clash Table := do
      let table := table ++ [entry]
      if strict then check depth table key
      return table
    match items.getLast?, item with
    | none, _ => return table ++ [entry]
    | some (.part origin entries), .part origin' entries' =>
      match origin, origin' with
      | .implied, .implied =>
        if table.lastPart? == some key then
          return table.replaceLast key (.part .implied (← appendAll depth entries entries'))
        else apart
      | .header, .header => throw .repeatedKey
      | .dotted, .header | .header, .dotted => throw .redefinedTable
      | _, _ => apart
    | some (.array elements), .part .implied entries' =>
      match elements.getLast? with
      | some last =>
        return table.replaceLast key
          (.array (elements.dropLast ++ [← appendAll depth last entries']))
      | none => throw .repeatedKey
    | some (.array elements), .array elements' =>
      return table.replaceLast key (.array (elements ++ elements'))
    | some _, _ => throw .repeatedKey

def appendAll (depth : Nat) (table : Table) (entries : List Entry) : Except Clash Table :=
  match depth with
  | 0 => .error .repeatedKey
  | depth + 1 => entries.foldlM (fun table entry => do
      let table ← append depth true table entry
      let items := table.itemsAt entry.1
      if items.length > 1 then discard (join depth items)
      return table) table

def check (depth : Nat) (table : Table) (key : String) : Except Clash Unit :=
  match depth with
  | 0 => .error .repeatedKey
  | depth + 1 => do
    let items := table.itemsAt key
    if items.length > 1 then
      let whole ← (items.flatMap Item.entries).foldlM (append depth false) []
      whole.keys.forM (check depth whole)

/-- The table that parts make together. Only parts of tables may share a key. -/
def join (depth : Nat) (items : List Item) : Except Clash Table :=
  match depth with
  | 0 => .error .repeatedKey
  | depth + 1 => do
    let whole ← (items.flatMap Item.entries).foldlM place []
    whole.keys.forM (check depth whole)
    return whole

end

def put (depth : Nat) (strict : Bool) (table : Table) (entry : Entry) : Except Clash Table := do
  let table ← append depth strict table entry
  let items := table.itemsAt entry.1
  if items.length > 1 then discard (join depth items)
  return table

def checkAll (depth : Nat) (table : Table) : Except Clash Unit :=
  table.keys.forM (check depth table)

mutual

def toNamed (depth : Nat) (table : Table) : Except Clash (List (String × Value)) :=
  match depth with
  | 0 => .error .repeatedKey
  | depth + 1 => table.keys.mapM fun key => do
      return (key, ← itemsValue depth (table.itemsAt key))

def itemsValue (depth : Nat) (items : List Item) : Except Clash Value :=
  match depth with
  | 0 => .error .repeatedKey
  | depth + 1 =>
    match items with
    | [.value value] => .ok value
    | [.part _ entries] => return .ofNamed (← toNamed depth entries)
    | [.array elements] => return .list (← elements.mapM fun e => do
        return .ofNamed (← toNamed depth e))
    | items => do return .ofNamed (← toNamed depth (← join depth items))

end
end Table
end ReleaseAdvisor.Toml
