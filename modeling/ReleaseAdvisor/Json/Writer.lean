import ReleaseAdvisor.Value

/-!
Writing values as JSON on one line, with a blank after commas and colons. All characters beyond
ASCII are escaped by their UTF-16 units. What JSON has no form for is written as the text that it
shows as.
-/

namespace ReleaseAdvisor.Json

def unitEscape (n : Nat) : List Char := '\\' :: 'u' :: Text.hexDigits 4 n

def escapeChar (c : Char) : List Char :=
  let n := c.toNat
  if c == '"' then ['\\', '"']
  else if c == '\\' then ['\\', '\\']
  else if c == '\n' then ['\\', 'n']
  else if c == '\r' then ['\\', 'r']
  else if c == '\t' then ['\\', 't']
  else if n == 8 then ['\\', 'b']
  else if n == 12 then ['\\', 'f']
  else if 32 ≤ n && n < 127 then [c]
  else if n < 0x10000 then unitEscape n
  else unitEscape (0xD800 + (n - 0x10000) / 0x400) ++ unitEscape (0xDC00 + (n - 0x10000) % 0x400)

def quote (s : String) : String := String.ofList ('"' :: s.toList.flatMap escapeChar ++ ['"'])

def writeScalar : Value → String
  | .null => "null"
  | .bool b => if b then "true" else "false"
  | .int n => toString n
  | .double .nan => "NaN"
  | .double (.infinite negative) => if negative then "-Infinity" else "Infinity"
  | .double x => x.text
  | v => quote v.shown

def writeName : Value → String
  | .text s => quote s
  | .null => quote "null"
  | .bool b => quote (if b then "true" else "false")
  | v => quote v.shown

mutual

def write : Value → String
  | .list items => "[" ++ ", ".intercalate (writeItems items) ++ "]"
  | .mapping entries => "\x7b" ++ ", ".intercalate (writeMembers entries) ++ "\x7d"
  | v => writeScalar v

def writeItems : List Value → List String
  | [] => []
  | v :: vs => write v :: writeItems vs

def writeMembers : List (Value × Value) → List String
  | [] => []
  | e :: es => writeMember e :: writeMembers es

def writeMember : Value × Value → String
  | (k, v) => writeName k ++ ": " ++ write v

end

end ReleaseAdvisor.Json
