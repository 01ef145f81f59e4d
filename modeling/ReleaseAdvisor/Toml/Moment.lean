import ReleaseAdvisor.Moment
import ReleaseAdvisor.Json.Reader

/-!
Dates, times of day and both together as TOML writes them. A text may have the form of a moment and
still name none, such as the thirtieth of February.
-/

namespace ReleaseAdvisor.Toml

def twoDigits? (least most : Nat) : List Char → Option (Nat × List Char)
  | a :: b :: rest =>
    if a.isDigit && b.isDigit then
      let n := Json.digitsValue [a, b]
      if least ≤ n && n ≤ most then some (n, rest) else none
    else none
  | _ => none

def char? (c : Char) : List Char → Option (List Char)
  | d :: rest => if c == d then some rest else none
  | [] => none

def year? (digit? : Char → Option Nat) : List Char → Option (Nat × List Char)
  | a :: b :: c :: d :: rest => do
    let n := [← digit? a, ← digit? b, ← digit? c, ← digit? d].foldl (· * 10 + ·) 0
    return (n, rest)
  | _ => none

def asciiDigit? (c : Char) : Option Nat := if c.isDigit then some (c.toNat - 48) else none

def isLeap (year : Nat) : Bool := year % 4 == 0 && (year % 100 != 0 || year % 400 == 0)

def daysIn (year month : Nat) : Nat :=
  if month == 2 then (if isLeap year then 29 else 28)
  else if [4, 6, 9, 11].contains month then 30
  else 31

def date? (digit? : Char → Option Nat) (cs : List Char) : Option (Date × List Char) := do
  let (year, rest) ← year? digit? cs
  let rest ← char? '-' rest
  let (month, rest) ← twoDigits? 1 12 rest
  let rest ← char? '-' rest
  let (day, rest) ← twoDigits? 1 31 rest
  if year = 0 || day > daysIn year month then none
  return (⟨year, month, day⟩, rest)

def microseconds (fraction : List Char) : Nat :=
  Json.digitsValue ((fraction ++ List.replicate 6 '0').take 6)

def second? : List Char → Option ((Nat × Nat) × List Char)
  | ':' :: rest => do
    let (second, rest) ← twoDigits? 0 59 rest
    match rest with
    | '.' :: fraction =>
      match Json.digits fraction with
      | ([], _) => none
      | (fraction, rest) => return ((second, microseconds fraction), rest)
    | rest => return ((second, 0), rest)
  | rest => some ((0, 0), rest)

def time? (cs : List Char) : Option (TimeOfDay × List Char) := do
  let (hour, rest) ← twoDigits? 0 23 cs
  let rest ← char? ':' rest
  let (minute, rest) ← twoDigits? 0 59 rest
  let ((second, microsecond), rest) ← second? rest
  return (⟨hour, minute, second, microsecond⟩, rest)

def offset? : List Char → Option (Option Offset)
  | [] => some none
  | ['Z'] | ['z'] => some (some .universal)
  | sign :: rest => do
    if !(['+', '-'].contains sign) then none
    let (hours, rest) ← twoDigits? 0 23 rest
    let rest ← char? ':' rest
    let (minutes, rest) ← twoDigits? 0 59 rest
    if rest.isEmpty then some (some (.shifted (sign == '-') hours minutes)) else none

/-- The moment that the whole text names. The year of a date that stands alone has ASCII digits,
that of a date with a time may have digits of any script. -/
def moment? (cs : List Char) : Option Moment :=
  match date? asciiDigit? cs, date? Text.decimalDigit? cs with
  | some (date, []), _ => some (.date date)
  | _, some (date, separator :: rest) => do
    if !(['T', 't', ' '].contains separator) then none
    let (time, rest) ← time? rest
    return .both date time (← offset? rest)
  | _, _ => do
    let (time, rest) ← time? cs
    if rest.isEmpty then return .time time else none

end ReleaseAdvisor.Toml
