import ReleaseAdvisor.Text.Alphanumeric
import ReleaseAdvisor.Text.Printable
import ReleaseAdvisor.Text.Letters

/-!
Classes of characters and the case of letters, by code point. A class is looked up in an ascending
list of ranges; the search stops at the first range that starts beyond the code point.
-/

namespace ReleaseAdvisor.Text

def inRanges (n : Nat) : List (Nat × Nat) → Bool
  | [] => false
  | (first, last) :: rest => if n < first then false else n ≤ last || inRanges n rest

/-- Blank characters: the Unicode spaces and separators, and the control characters that part
lines, fields and records. -/
def isBlank (c : Char) : Bool :=
  inRanges c.toNat [(9, 13), (28, 32), (133, 133), (160, 160), (5760, 5760), (8192, 8202),
    (8232, 8233), (8239, 8239), (8287, 8287), (12288, 12288)]

/-- Characters that end a line: line feed, vertical tab, form feed, carriage return, the file,
group and record separators, next line, and the line and paragraph separators. -/
def isLineEnd (c : Char) : Bool :=
  inRanges c.toNat [(10, 13), (28, 30), (133, 133), (8232, 8233)]

def isAlphanumeric (c : Char) : Bool := inRanges c.toNat alphanumeric

def isLetter (c : Char) : Bool := isAlphanumeric c && !inRanges c.toNat numeric

def isWordChar (c : Char) : Bool := c == '_' || isAlphanumeric c

def isDecimalDigit (c : Char) : Bool := inRanges c.toNat decimalDigits

def isPrintable (c : Char) : Bool := inRanges c.toNat printable

/-- The worth of a decimal digit of any script: digits come in runs of ten from zero to nine. -/
def decimalDigit? (c : Char) : Option Nat :=
  (decimalDigits.find? fun r => r.1 ≤ c.toNat && c.toNat ≤ r.2).map fun r => (c.toNat - r.1) % 10

def startsIdentifier (c : Char) : Bool :=
  c == '_' || inRanges c.toNat identifierStarters ||
    (isLetter c && !inRanges c.toNat identifierFollowers && !inRanges c.toNat identifierOutsiders)

def continuesIdentifier (c : Char) : Bool :=
  c == '_' || inRanges c.toNat identifierMarks ||
    (isAlphanumeric c && !inRanges c.toNat identifierOutsiders)

def isIdentifier : List Char → Bool
  | [] => false
  | c :: rest => startsIdentifier c && rest.all continuesIdentifier

def partnerIn (n : Nat) : List (Nat × Nat × Nat × Nat) → Nat
  | [] => n
  | (first, last, step, partner) :: rest =>
    if n < first then n
    else if n ≤ last && (n - first) % step == 0 then partner + (n - first)
    else partnerIn n rest

def lowerPoint (n : Nat) : Nat := partnerIn n lowerRuns

def upperPoint (n : Nat) : Nat := partnerIn n upperRuns

def hasCase (n : Nat) : Bool := lowerPoint n != n || upperPoint n != n

def lowerAscii (n : Nat) : Nat := if 65 ≤ n && n ≤ 90 then n + 32 else n

def capitalsOf (n : Nat) : List Nat :=
  lowerRuns.filterMap fun (first, last, step, lower) =>
    if lower ≤ n && n ≤ lower + (last - first) && (n - lower) % step == 0 then
      some (first + (n - lower))
    else none

def siblings (n : Nat) : List Nat := n :: (caseSiblings.lookup n).getD []

/-- A small sigma ends a word if a letter comes before it and none after it, whatever characters
the rule skips stand between. -/
def sigmaEnds (before after : List Char) : Bool :=
  let next? (cs : List Char) := cs.find? fun c => !inRanges c.toNat caseIgnorable
  let letter (c : Char) := inRanges c.toNat casedLetters
  (next? before).any letter && !(next? after).any letter

/-- Lower case of a text: `İ` becomes two characters, a capital sigma its final form at the end of
a word, and every other capital its one partner. The first argument holds what came before, last
character first. -/
def lowerFrom (before : List Char) : List Char → List Char
  | [] => []
  | c :: rest =>
    let low :=
      if c == 'İ' then ['i', Char.ofNat 775]
      else if c == 'Σ' then [if sigmaEnds before rest then 'ς' else 'σ']
      else [Char.ofNat (lowerPoint c.toNat)]
    low ++ lowerFrom (c :: before) rest

def lower (s : String) : String := String.ofList (lowerFrom [] s.toList)

def trimChars (drop : Char → Bool) (cs : List Char) : List Char :=
  ((cs.dropWhile drop).reverse.dropWhile drop).reverse

def strip (cs : List Char) : List Char := trimChars isBlank cs

def blank (cs : List Char) : Bool := cs.all isBlank

def unifyLineFeeds : List Char → List Char
  | [] => []
  | '\r' :: '\n' :: rest => '\n' :: unifyLineFeeds rest
  | '\r' :: rest => '\n' :: unifyLineFeeds rest
  | c :: rest => c :: unifyLineFeeds rest

/-- The lines of a text by every kind of line end; a text that ends with one has no empty last
line. The first argument is the line read so far, last character first. -/
def linesFrom (line : List Char) : List Char → List (List Char)
  | [] => if line.isEmpty then [] else [line.reverse]
  | '\r' :: '\n' :: rest => line.reverse :: linesFrom [] rest
  | c :: rest =>
    if isLineEnd c then line.reverse :: linesFrom [] rest else linesFrom (c :: line) rest

def lines (cs : List Char) : List (List Char) := linesFrom [] cs

def after? : List Char → List Char → Option (List Char)
  | [], cs => some cs
  | w :: ws, c :: cs => if w == c then after? ws cs else none
  | _ :: _, [] => none

def splitAt (cut : Char → Bool) : List Char → List (List Char)
  | [] => [[]]
  | c :: rest =>
    if cut c then [] :: splitAt cut rest
    else match splitAt cut rest with
      | [] => [[c]]
      | part :: parts => (c :: part) :: parts

def join (separator : List Char) : List (List Char) → List Char
  | [] => []
  | [part] => part
  | part :: parts => part ++ separator ++ join separator parts

end ReleaseAdvisor.Text
