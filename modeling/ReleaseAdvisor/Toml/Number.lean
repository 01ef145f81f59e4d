import ReleaseAdvisor.Json.Reader

/-!
Numbers as TOML writes them. Whole numbers may be binary, octal, decimal or hexadecimal, the others
are decimal; underscores may stand between digits. Digits of any script count as decimal digits.
-/

namespace ReleaseAdvisor.Toml

/-- Digits of other scripts as ASCII digits, and every blank as a space. -/
def plainChar (c : Char) : Char :=
  match Text.decimalDigit? c with
  | some d => Char.ofNat (48 + d)
  | none => if Text.isBlank c then ' ' else c

def plain (cs : List Char) : List Char :=
  Text.trimChars (· == ' ') (cs.map fun c => (plainChar c).toLower)

/-- Takes out underscores between digits; `before` is the character before the text. -/
def dropUnderscores (isDigit : Char → Bool) (before : Char) : List Char → List Char
  | [] => []
  | c :: rest =>
    if c == '_' && isDigit before && rest.head?.any isDigit then
      dropUnderscores isDigit c rest
    else c :: dropUnderscores isDigit c rest

def digitsOf? (base : Nat) (cs : List Char) : Option Nat :=
  if cs.isEmpty then none
  else cs.foldlM (fun n c => do
    let d ← Json.hexValue? c
    if d < base then some (n * base + d) else none) 0

def signed (negative : Bool) (n : Nat) : Int := if negative then -(n : Int) else n

def double? (negative : Bool) (cs : List Char) : Option Double :=
  let (whole, afterWhole) := Json.digits cs
  let (fraction, afterFraction) := match afterWhole with
    | '.' :: rest => Json.digits rest
    | rest => ([], rest)
  let (exponent?, rest) := Json.readExponent afterFraction
  if (whole.isEmpty && fraction.isEmpty) || !rest.isEmpty then none
  else
    let exponent : Int := exponent?.getD 0 - fraction.length
    some (.ofDecimal negative (Json.digitsValue (whole ++ fraction)) exponent)

def markedBase? : List Char → Option Nat
  | '0' :: 'b' :: _ => some 2
  | '0' :: 'o' :: _ => some 8
  | '0' :: 'x' :: _ => some 16
  | _ => none

def zeroLeads : List Char → Bool
  | '0' :: c :: _ => !(['.', 'o', 'x', 'b', 'e', 'E'].contains c)
  | _ => false

/-- The decimal number of a lowered text. A whole number too long to be read is a double. -/
def decimal? (negative : Bool) (cs : List Char) : Option Value :=
  match digitsOf? 10 cs with
  | some n =>
    if cs.length ≤ longestWhole then some (.int (signed negative n))
    else (double? negative cs).map .double
  | none => (double? negative cs).map .double

def digitNumber? (isSigned negative : Bool) (cs : List Char) : Option Value :=
  let base? := markedBase? cs
  if zeroLeads cs || (isSigned && (cs.head? == some '.' || base?.isSome)) then none
  else
    let base := base?.getD 10
    let isDigit (c : Char) : Bool := (Json.hexValue? c).any (· < base)
    let cs := (dropUnderscores isDigit ' ' cs).map Char.toLower
    if cs.contains '_' then none
    else
      match base? with
      | some base => (digitsOf? base ((plain cs).drop 2)).map fun n => .int n
      | none =>
        if (cs.takeWhile (· != 'e')).getLast? == some '.' then none
        else
          match cs with
          | [] => none
          | c :: _ => if Text.isBlank c then none else decimal? negative (plain cs)

/-- The number that a text without its sign writes. An infinity and what is no number have a word
each, in small letters. -/
def unsigned? (isSigned negative : Bool) (cs : List Char) : Option Value :=
  if cs == "inf".toList then some (.double (.infinite negative))
  else if cs == "nan".toList then some (.double .nan)
  else digitNumber? isSigned negative cs

def number? : List Char → Option Value
  | '+' :: rest => unsigned? true false rest
  | '-' :: rest => unsigned? true true rest
  | cs => unsigned? false false cs

end ReleaseAdvisor.Toml
