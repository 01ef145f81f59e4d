import ReleaseAdvisor.Moment
import ReleaseAdvisor.Number.Limit
import ReleaseAdvisor.Number.Shortest
import ReleaseAdvisor.Pattern.Syntax
import ReleaseAdvisor.Text.Quoted

/-!
Values as configurations, rules and commit fields hold them: scalars, lists, ordered mappings,
ready patterns and moments. Two texts belong to a value: the one it shows as, and the one it is
written as inside another value. Equality goes by number across whole numbers, doubles and truth
values, and a mapping does not depend on its order.
-/

namespace ReleaseAdvisor

inductive Value where
  | null
  | bool (b : Bool)
  | int (n : Int)
  | double (x : Double)
  | text (s : String)
  | list (items : List Value)
  | mapping (entries : List (Value × Value))
  | pattern (p : Regex)
  | moment (m : Moment)
  deriving Inhabited, Repr

namespace Value

def wholeNumber? : Value → Option Int
  | .bool b => some (if b then 1 else 0)
  | .int n => some n
  | _ => none

def sameScalar (a b : Value) : Bool :=
  match a, b with
  | .null, .null => true
  | .text s, .text t => s == t
  | .pattern p, .pattern q => p.source == q.source && p.flags == q.flags
  | .moment m, .moment n => m == n
  | .double x, .double y => x.same y
  | .double x, b => match b.wholeNumber? with
    | some n => x.isInt n
    | none => false
  | a, .double y => match a.wholeNumber? with
    | some n => y.isInt n
    | none => false
  | a, b => match a.wholeNumber?, b.wholeNumber? with
    | some n, some m => n == m
    | _, _ => false

mutual

def same : Value → Value → Bool
  | .list xs, b => match b with
    | .list ys => sameItems xs ys
    | _ => false
  | .mapping es, b => match b with
    | .mapping fs => es.length == fs.length && entriesWithin es fs
    | _ => false
  | a, b => sameScalar a b

def sameItems : List Value → List Value → Bool
  | [], ys => ys.isEmpty
  | x :: xs, ys => match ys with
    | [] => false
    | y :: ys => same x y && sameItems xs ys

def entriesWithin : List (Value × Value) → List (Value × Value) → Bool
  | [], _ => true
  | e :: es, fs => fs.any (sameEntry e) && entriesWithin es fs

def sameEntry : Value × Value → Value × Value → Bool
  | (k, v), f => same k f.1 && same v f.2

end

def truthy : Value → Bool
  | .null => false
  | .bool b => b
  | .int n => n != 0
  | .double x => !x.isZero
  | .text s => !s.isEmpty
  | .list items => !items.isEmpty
  | .mapping entries => !entries.isEmpty
  | .pattern _ => true
  | .moment _ => true

def kindName : Value → String
  | .null => "NoneType"
  | .bool _ => "bool"
  | .int _ => "int"
  | .double _ => "float"
  | .text _ => "str"
  | .list _ => "list"
  | .mapping _ => "dict"
  | .pattern _ => "Pattern"
  | .moment m => m.kindName

/-- A pattern as the call that makes it, cut after 200 characters of its text; the flags in force
follow. -/
def patternText (p : Regex) : String :=
  let names := [(p.flags.template, "re.TEMPLATE"), (p.flags.ignoreCase, "re.IGNORECASE"),
    (p.flags.multiline, "re.MULTILINE"), (p.flags.dotAll, "re.DOTALL"),
    (p.flags.verbose, "re.VERBOSE"), (p.flags.ascii, "re.ASCII")].filterMap fun (on, name) =>
      if on then some name else none
  "re.compile(" ++ String.ofList ((Text.quoteChars p.source.toList).take 200) ++
    (if names.isEmpty then "" else ", " ++ "|".intercalate names) ++ ")"

def scalarText : Value → String
  | .null => "None"
  | .bool b => if b then "True" else "False"
  | .int n => toString n
  | .double x => x.text
  | .text s => Text.quoted s
  | .pattern p => patternText p
  | .moment m => m.callText
  | _ => ""

mutual

def written : Value → String
  | .list items => "[" ++ ", ".intercalate (writtenItems items) ++ "]"
  | .mapping entries => "\x7b" ++ ", ".intercalate (writtenEntries entries) ++ "\x7d"
  | v => scalarText v

def writtenItems : List Value → List String
  | [] => []
  | v :: vs => written v :: writtenItems vs

def writtenEntries : List (Value × Value) → List String
  | [] => []
  | e :: es => writtenEntry e :: writtenEntries es

def writtenEntry : Value × Value → String
  | (k, v) => written k ++ ": " ++ written v

end

/-- The text that a value shows as: a text as it is, any other value as it is written. -/
def shown : Value → String
  | .text s => s
  | .moment m => m.textWith " "
  | v => v.written

mutual

def hasText : Value → Bool
  | .int n => isWritableWhole n
  | .list items => itemsHaveText items
  | .mapping entries => entriesHaveText entries
  | _ => true

def itemsHaveText : List Value → Bool
  | [] => true
  | v :: vs => hasText v && itemsHaveText vs

def entriesHaveText : List (Value × Value) → Bool
  | [] => true
  | e :: es => entryHasText e && entriesHaveText es

def entryHasText : Value × Value → Bool
  | (k, v) => hasText k && hasText v

end

end Value

abbrev Entries := List (Value × Value)

namespace Entries

def get? (entries : Entries) (key : Value) : Option Value :=
  (entries.find? fun e => e.1.same key).map (·.2)

def field (entries : Entries) (name : String) : Value := (entries.get? (.text name)).getD .null

/-- Puts a value under a key. A known key keeps its place and spelling. -/
def put (key value : Value) : Entries → Entries
  | [] => [(key, value)]
  | e :: es => if e.1.same key then (e.1, value) :: es else e :: put key value es

def putAll (entries more : Entries) : Entries :=
  more.foldl (fun es e => es.put e.1 e.2) entries

end Entries

namespace Value

def named? : Value → Option (List (String × Value))
  | .mapping entries => entries.mapM fun
    | (.text k, v) => some (k, v)
    | _ => none
  | _ => none

def ofNamed (entries : List (String × Value)) : Value :=
  .mapping (entries.map fun (k, v) => (.text k, v))

end Value
end ReleaseAdvisor
