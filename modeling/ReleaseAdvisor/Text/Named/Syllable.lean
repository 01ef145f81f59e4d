import ReleaseAdvisor.Text.Class

/-!
Hangul syllables by name. A syllable is named by its first letter, its vowel and its last letter;
the first and the last may be missing.
-/

namespace ReleaseAdvisor.Text.Syllable

def firstLetters : List String :=
  ["G", "GG", "N", "D", "DD", "R", "M", "B", "BB", "S", "SS", "", "J", "JJ", "C", "K", "T", "P",
    "H"]

def vowels : List String :=
  ["A", "AE", "YA", "YAE", "EO", "E", "YEO", "YE", "O", "WA", "WAE", "OE", "YO", "U", "WEO", "WE",
    "WI", "YU", "EU", "YI", "I"]

def lastLetters : List String :=
  ["", "G", "GG", "GS", "N", "NJ", "NH", "D", "L", "LG", "LM", "LB", "LS", "LT", "LP", "LH", "M",
    "B", "BS", "S", "SS", "NG", "J", "C", "K", "T", "P", "H"]

def longestStart? (letters : List String) (cs : List Char) : Option (Nat × List Char) :=
  let found := letters.zipIdx.filterMap fun (letter, place) =>
    (after? letter.toList cs).map (place, ·)
  found.foldl (fun best next =>
    if best.all (next.2.length < ·.2.length) then some next else best) none

/-- The syllable with the given letters. Syllables are ordered by first letter, vowel and last
letter. -/
def pointNamed? (letters : List Char) : Option Nat := do
  let (first, rest) ← longestStart? firstLetters letters
  let (vowel, rest) ← longestStart? vowels rest
  let (last, rest) ← longestStart? lastLetters rest
  guard rest.isEmpty
  return 0xAC00 + (first * vowels.length + vowel) * lastLetters.length + last

end ReleaseAdvisor.Text.Syllable
