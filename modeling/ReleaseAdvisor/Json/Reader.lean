import ReleaseAdvisor.Value

/-!
Reading JSON documents. Readers return the text that is left; a fault carries how much of the text
was left at its place, from which the position is computed at the end. Objects keep the order of
their members; a repeated name keeps its first place and its last value. Beyond the standard, the
names `NaN`, `Infinity` and `-Infinity` are numbers. There may be a limit to the digits of a whole
number.
-/

namespace ReleaseAdvisor.Json

inductive Cause where
  | byteOrderMark
  | value
  | name
  | colon
  | comma
  | extra
  | unterminatedText
  | controlCharacter
  | escape
  | codePoint
  | hugeNumber (digits : Nat)
  deriving DecidableEq, Repr

/-- Why and where a text is no document: `left` characters before its end. -/
structure Stop where
  cause : Cause
  left : Nat
  deriving DecidableEq, Repr

def Cause.text : Cause → String
  | .byteOrderMark => "Unexpected UTF-8 BOM (decode using utf-8-sig)"
  | .value => "Expecting value"
  | .name => "Expecting property name enclosed in double quotes"
  | .colon => "Expecting ':' delimiter"
  | .comma => "Expecting ',' delimiter"
  | .extra => "Extra data"
  | .unterminatedText => "Unterminated string starting at"
  | .controlCharacter => "Invalid control character at"
  | .escape => "Invalid \\escape"
  | .codePoint => "Invalid \\uXXXX escape"
  | .hugeNumber digits => tooLongText (some digits)

def isSpace (c : Char) : Bool := c == ' ' || c == '\t' || c == '\n' || c == '\r'

def skipSpace (cs : List Char) : List Char := cs.dropWhile isSpace

def stop {α : Type} (cause : Cause) (rest : List Char) : Except Stop α :=
  .error ⟨cause, rest.length⟩

def hexValue? (c : Char) : Option Nat :=
  if c.isDigit then some (c.toNat - 48)
  else if 'a' ≤ c && c ≤ 'f' then some (c.toNat - 87)
  else if 'A' ≤ c && c ≤ 'F' then some (c.toNat - 55)
  else none

def hex4? : List Char → Option (Nat × List Char)
  | a :: b :: c :: d :: rest => do
    let n := [← hexValue? a, ← hexValue? b, ← hexValue? c, ← hexValue? d].foldl (· * 16 + ·) 0
    return (n, rest)
  | _ => none

def escaped? (c : Char) : Option Char :=
  [('"', '"'), ('\\', '\\'), ('/', '/'), ('b', Char.ofNat 8), ('f', Char.ofNat 12), ('n', '\n'),
    ('r', '\r'), ('t', '\t')].lookup c

/-- A code point, the backslash and letter being read, and how many characters write it: four
digits, with a second half if they are the first half of a pair. Half of a pair by itself becomes
the replacement character. -/
def readCodePoint (rest : List Char) : Except Stop (Char × Nat) :=
  match hex4? rest with
  | none => stop .codePoint ('u' :: rest)
  | some (n, after) =>
    if after.isEmpty then stop .codePoint ('u' :: rest)
    else if n < 0xD800 || 0xDFFF < n then .ok (Char.ofNat n, 4)
    else
      match after with
      | '\\' :: 'u' :: second =>
        match hex4? second with
        | some (m, after') =>
          if n < 0xDC00 && 0xDC00 ≤ m && m ≤ 0xDFFF && !after'.isEmpty then
            .ok (Char.ofNat (0x10000 + (n - 0xD800) * 0x400 + (m - 0xDC00)), 10)
          else .ok (Char.ofNat 0xFFFD, 4)
        | none =>
          if n < 0xDC00 && second.length > 4 then stop .codePoint ('u' :: second)
          else .ok (Char.ofNat 0xFFFD, 4)
      | _ => .ok (Char.ofNat 0xFFFD, 4)

def readEscape (opened : List Char) (cs : List Char) : Except Stop (Char × Nat) :=
  match cs with
  | [] => .error ⟨.unterminatedText, opened.length + 1⟩
  | 'u' :: rest => (readCodePoint rest).map fun (c, size) => (c, size + 1)
  | c :: _ =>
    match escaped? c with
    | some c => .ok (c, 1)
    | none => stop .escape ('\\' :: cs)

/-- A text up to its closing quote, `skip` characters being part of an escape that is read. -/
def readText (opened : List Char) : Nat → List Char → List Char → Except Stop (String × List Char)
  | _, _, [] => .error ⟨.unterminatedText, opened.length + 1⟩
  | skip + 1, read, _ :: rest => readText opened skip read rest
  | 0, read, '"' :: rest => .ok (String.ofList read.reverse, rest)
  | 0, read, '\\' :: rest =>
    match readEscape opened rest with
    | .ok (c, size) => readText opened size (c :: read) rest
    | .error e => .error e
  | 0, read, c :: rest =>
    if c.toNat < 32 then stop .controlCharacter (c :: rest)
    else readText opened 0 (c :: read) rest

def startText (cs : List Char) : Except Stop (String × List Char) := readText cs 0 [] cs

def digits (cs : List Char) : List Char × List Char :=
  (cs.takeWhile Char.isDigit, cs.dropWhile Char.isDigit)

def digitsValue (ds : List Char) : Nat := ds.foldl (fun n d => n * 10 + (d.toNat - 48)) 0

def readFraction : List Char → List Char × List Char
  | '.' :: rest => match digits rest with
    | ([], _) => ([], '.' :: rest)
    | found => found
  | rest => ([], rest)

def readExponent (cs : List Char) : Option Int × List Char :=
  match cs with
  | e :: rest =>
    if e == 'e' || e == 'E' then
      let (negative, rest') := match rest with
        | '-' :: rest => (true, rest)
        | '+' :: rest => (false, rest)
        | rest => (false, rest)
      match digits rest' with
      | ([], _) => (none, cs)
      | (ds, after) =>
        let n : Nat := digitsValue ds
        (some (if negative then -(n : Int) else (n : Int)), after)
    else (none, cs)
  | [] => (none, cs)

def readNumber (limit : Option Nat) (negative : Bool) (cs : List Char) :
    Option (Except Nat Value × List Char) :=
  let whole := match cs with
    | '0' :: rest => (['0'], rest)
    | cs => digits cs
  if whole.1.isEmpty then none
  else
    let (fraction, afterFraction) := readFraction whole.2
    let (exponent?, rest) := readExponent afterFraction
    if fraction.isEmpty && exponent?.isNone then
      if limit.any (· < whole.1.length) then some (.error whole.1.length, rest)
      else
        let n : Nat := digitsValue whole.1
        some (.ok (.int (if negative then -(n : Int) else (n : Int))), rest)
    else
      let exponent : Int := exponent?.getD 0 - fraction.length
      some (.ok (.double (.ofDecimal negative (digitsValue (whole.1 ++ fraction)) exponent)), rest)

def words : List (List Char × Value) :=
  [("null".toList, .null), ("true".toList, .bool true), ("false".toList, .bool false),
    ("NaN".toList, .double .nan), ("Infinity".toList, .double (.infinite false)),
    ("-Infinity".toList, .double (.infinite true))]

def readScalar (limit : Option Nat) (cs : List Char) : Except Stop (Value × List Char) :=
  match words.findSome? fun (word, value) => (Text.after? word cs).map (value, ·) with
  | some found => .ok found
  | none =>
    let number? := match cs with
      | '-' :: rest => readNumber limit true rest
      | cs => readNumber limit false cs
    match number? with
    | some (.ok value, rest) => .ok (value, rest)
    | some (.error size, _) => stop (.hugeNumber size) cs
    | none => stop .value cs

mutual

def readValue (limit : Option Nat) : Nat → List Char → Except Stop (Value × List Char)
  | 0, cs => stop .value cs
  | fuel + 1, cs =>
    match cs with
    | '"' :: rest => do
      let (s, rest) ← startText rest
      return (.text s, rest)
    | '[' :: rest => do
      match skipSpace rest with
      | ']' :: rest => return (.list [], rest)
      | rest =>
        let (items, rest) ← readItems limit fuel rest
        return (.list items, rest)
    | '{' :: rest => do
      match skipSpace rest with
      | '}' :: rest => return (.mapping [], rest)
      | rest =>
        let (entries, rest) ← readMembers limit fuel [] rest
        return (.mapping entries, rest)
    | cs => readScalar limit cs

def readItems (limit : Option Nat) : Nat → List Char → Except Stop (List Value × List Char)
  | 0, cs => stop .value cs
  | fuel + 1, cs => do
    let (item, rest) ← readValue limit fuel cs
    match skipSpace rest with
    | ']' :: rest => return ([item], rest)
    | ',' :: rest =>
      let (items, rest) ← readItems limit fuel (skipSpace rest)
      return (item :: items, rest)
    | rest => stop .comma rest

def readMembers (limit : Option Nat) :
    Nat → Entries → List Char → Except Stop (Entries × List Char)
  | 0, _, cs => stop .name cs
  | fuel + 1, read, cs => do
    match cs with
    | '"' :: rest =>
      let (name, rest) ← startText rest
      match skipSpace rest with
      | ':' :: rest =>
        let (value, rest) ← readValue limit fuel (skipSpace rest)
        let read := read.put (.text name) value
        match skipSpace rest with
        | '}' :: rest => return (read, rest)
        | ',' :: rest => readMembers limit fuel read (skipSpace rest)
        | rest => stop .comma rest
      | rest => stop .colon rest
    | rest => stop .name rest

end

def readDocument (cs : List Char) (limit : Option Nat := some longestWhole) : Except Stop Value :=
  match cs with
  | '\uFEFF' :: _ => stop .byteOrderMark cs
  | _ => do
    let (value, rest) ← readValue limit (2 * cs.length + 1) (skipSpace cs)
    match skipSpace rest with
    | [] => return value
    | rest => stop .extra rest

def Stop.message (cs : List Char) (s : Stop) : String :=
  match s.cause with
  | .hugeNumber _ => s.cause.text
  | cause =>
    let pos := cs.length - s.left
    let before := cs.take pos
    let line := (before.filter (· == '\n')).length + 1
    let column := (before.reverse.takeWhile (· != '\n')).length + 1
    cause.text ++ ": line " ++ toString line ++ " column " ++ toString column ++ " (char " ++
      toString pos ++ ")"

end ReleaseAdvisor.Json
