import ReleaseAdvisor.Commit.Basic

/-!
Commits as text. A JSON array lists them as messages or as objects; any other text holds messages
between zero characters, as version control writes them. There may be a limit to the digits of a
whole number in the array.
-/

namespace ReleaseAdvisor.Submission

def items? (cs : List Char) (limit : Option Nat := some longestWhole) :
    Except Failure (Option (List Value)) :=
  let stripped := Text.strip cs
  if stripped.head? == some '[' && stripped.getLast? == some ']' then
    match Json.readDocument stripped limit with
    | .ok (.list items) => .ok (some items)
    | .error ⟨.hugeNumber digits, _⟩ => .error (.refusal (.hugeNumber digits))
    | _ => .ok none
  else .ok none

def isEntry : Value → Bool
  | .text _ | .mapping _ => true
  | _ => false

/-- The messages between zero characters, without line feeds at their ends and without blank
ones. -/
def chunks (cs : List Char) : List Submission :=
  ((Text.splitAt (· == Char.ofNat 0) cs).filter fun chunk => !Text.blank chunk).map fun chunk =>
    ⟨.text (String.ofList (Text.trimChars (· == '\n') chunk)), .text "", false⟩

def readAll (text : String) (limit : Option Nat := some longestWhole) :
    Except Failure (List Submission) := do
  match ← items? text.toList limit with
  | some items =>
    if items.all isEntry then items.mapM ofValue else throw (.report .commitsNotEntries)
  | none => return chunks text.toList

end ReleaseAdvisor.Submission
