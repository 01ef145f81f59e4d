import ReleaseAdvisor.Text.Class
import ReleaseAdvisor.Text.Named.Ancient
import ReleaseAdvisor.Text.Named.Arrow
import ReleaseAdvisor.Text.Named.Brahmic
import ReleaseAdvisor.Text.Named.EastAsian
import ReleaseAdvisor.Text.Named.European
import ReleaseAdvisor.Text.Named.Figure
import ReleaseAdvisor.Text.Named.Form
import ReleaseAdvisor.Text.Named.MiddleEastern
import ReleaseAdvisor.Text.Named.Notation
import ReleaseAdvisor.Text.Named.Numbered
import ReleaseAdvisor.Text.Named.Other
import ReleaseAdvisor.Text.Named.Phonetic
import ReleaseAdvisor.Text.Named.Pictorial
import ReleaseAdvisor.Text.Named.Picture
import ReleaseAdvisor.Text.Named.Punctuation
import ReleaseAdvisor.Text.Named.Recent
import ReleaseAdvisor.Text.Named.Shape
import ReleaseAdvisor.Text.Named.SouthAsian
import ReleaseAdvisor.Text.Named.Syllabic
import ReleaseAdvisor.Text.Named.Syllable

/-!
Characters by name, in any case of ASCII letters. Hangul syllables and unified ideographs are named
by rule, and the start of such a name is read in capital letters alone; a few others are named by
number. All other names stand in tables of runs: each run has its first code point and the names of
the characters from there on, parted by bars. A digit before a name says how many words it takes
over from the start of the name before it.
-/

namespace ReleaseAdvisor.Text

def wordsOfName (before : List (List Char)) (entry : List Char) : List (List Char) :=
  match entry with
  | [] => [[]]
  | c :: rest =>
    if c.isDigit then before.take (c.toNat - 48) ++ splitAt (· == ' ') rest
    else splitAt (· == ' ') entry

/-- The code point of a name in a run that starts at `point`, after a name with the words
`before`. -/
def pointInRun? (wanted : List (List Char)) (point : Nat) (before : List (List Char)) :
    List (List Char) → Option Nat
  | [] => none
  | entry :: rest =>
    let words := wordsOfName before entry
    if words == wanted then some point else pointInRun? wanted (point + 1) words rest

def nameTables : List (List (Nat × List String)) :=
  [europeanNames, phoneticNames, middleEasternNames, southAsianNames, syllabicNames,
    punctuationNames, shapeNames, arrowNames, eastAsianNames, formNames, ancientNames,
    brahmicNames, pictorialNames, recentNames, notationNames, pictureNames, figureNames]

def pointSpelled? (name : List Char) : Option Nat :=
  let wanted := splitAt (· == ' ') name
  nameTables.findSome? (·.findSome? fun (first, lines) =>
    pointInRun? wanted first [] (lines.flatMap (splitAt (· == '|') ·.toList)))

def pointOtherwiseNamed? (name : List Char) : Option Nat :=
  (otherNames.find? fun entry => (splitAt (· == '|') entry.2.toList).contains name).map (·.1)

def pointNamed? (name : String) : Option Nat :=
  let cs := name.toList
  match after? "HANGUL SYLLABLE ".toList cs, after? "CJK UNIFIED IDEOGRAPH-".toList cs with
  | some letters, _ => Syllable.pointNamed? letters
  | none, some digits => ideographNamed? digits
  | none, none =>
    let wanted := cs.map Char.toUpper
    pointSpelled? wanted <|> pointNamedByCode? wanted <|> selectorNamed? wanted <|>
      pointOtherwiseNamed? wanted

end ReleaseAdvisor.Text
