import ReleaseAdvisor.Text.Quoted

/-!
Characters that are named by a number: ideographs and the characters of two scripts by their code
point, and the selectors of variants by their place.
-/

namespace ReleaseAdvisor.Text

def numberOfCode? (digits : List Char) : Option Nat := do
  guard (digits.length == 4 || digits.length == 5)
  digits.foldlM (fun n digit => ("0123456789ABCDEF".toList.idxOf? digit).map (n * 16 + ·)) 0

def unifiedIdeographs : List (Nat × Nat) :=
  [(0x3400, 0x4DBF), (0x4E00, 0x9FFF), (0x20000, 0x2A6DF), (0x2A700, 0x2B738), (0x2B740, 0x2B81D),
    (0x2B820, 0x2CEA1), (0x2CEB0, 0x2EBE0), (0x30000, 0x3134A)]

def ideographNamed? (digits : List Char) : Option Nat :=
  (numberOfCode? digits).filter (inRanges · unifiedIdeographs)

def namedByCode : List (String × List (Nat × Nat)) :=
  [("CJK COMPATIBILITY IDEOGRAPH-", [(0xF900, 0xFA6D), (0xFA70, 0xFAD9), (0x2F800, 0x2FA1D)]),
    ("KHITAN SMALL SCRIPT CHARACTER-", [(0x18B00, 0x18CD5)]),
    ("NUSHU CHARACTER-", [(0x1B170, 0x1B2FB)])]

/-- A code point completes a name with as few digits as it has, but no fewer than four. -/
def pointNamedByCode? (name : List Char) : Option Nat :=
  namedByCode.findSome? fun (start, ranges) => do
    let digits ← after? start.toList name
    let point ← numberOfCode? digits
    guard (inRanges point ranges && (digits.length == 4 || 0x10000 ≤ point))
    return point

/-- The selectors of variants: sixteen of them, and elsewhere the other two hundred and forty. -/
def selectors : List Nat :=
  List.range' 0xFE00 16 ++ List.range' 0xE0100 240

def selectorNamed? (name : List Char) : Option Nat := do
  let place ← after? "VARIATION SELECTOR-".toList name <|> after? "VS".toList name
  let (point, _) ← selectors.zipIdx.find? fun (_, index) => Nat.toDigits 10 (index + 1) == place
  return point

end ReleaseAdvisor.Text
