/-!
How long a decimal whole number may be to be read or written.
-/

namespace ReleaseAdvisor

def longestWhole : Nat := 4300

def isWritableWhole (n : Int) : Bool := n.natAbs < Nat.pow 10 longestWhole

/-- What is said of a whole number that is too long; its length is known only where it was to be
read. -/
def tooLongText (digits? : Option Nat) : String :=
  "Exceeds the limit (" ++ toString longestWhole ++ " digits) for integer string conversion" ++
    (match digits? with
      | some digits => ": value has " ++ toString digits ++ " digits"
      | none => "") ++ "; use sys.set_int_max_str_digits() to increase the limit"

end ReleaseAdvisor
