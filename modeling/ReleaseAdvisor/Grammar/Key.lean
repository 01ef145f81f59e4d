import ReleaseAdvisor.Text.Class

/-!
Option keys. A key may be written in words joined by underscores or by capitals; both become the
first form.
-/

namespace ReleaseAdvisor.Grammar

def markCapitals (cs : List Char) : List Char :=
  cs.flatMap fun c => if c.isUpper then ['_', c] else [c]

/-- The key with its words joined by underscores: the first letter is never marked. -/
def normalizeChars : List Char → List Char
  | [] => []
  | c :: rest => Text.lowerFrom [] (c :: markCapitals rest)

def normalizeKey (key : String) : String := String.ofList (normalizeChars key.toList)

end ReleaseAdvisor.Grammar
