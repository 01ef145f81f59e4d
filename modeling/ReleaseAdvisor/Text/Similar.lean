import ReleaseAdvisor.Text.Class

/-!
How alike two texts are: their longest common run is matched, then what stands before it and what
stands after it, and the matched characters are counted on both sides. A text that shares three
fifths of its characters with another one passes for a slip of the pen.
-/

namespace ReleaseAdvisor.Text

def commonStart : List Char → List Char → Nat
  | a :: as, b :: bs => if a == b then commonStart as bs + 1 else 0
  | _, _ => 0

def tailsFrom (before : Nat) : List Char → List (Nat × List Char)
  | [] => []
  | c :: cs => (before, c :: cs) :: tailsFrom (before + 1) cs

structure Run where
  first : Nat
  second : Nat
  length : Nat
  deriving DecidableEq, Repr

/-- The longest common run; of equally long ones the earliest in the first text, then in the
second. -/
def longestRun (as bs : List Char) : Run :=
  let runs := (tailsFrom 0 as).flatMap fun (i, as') =>
    (tailsFrom 0 bs).map fun (j, bs') => Run.mk i j (commonStart as' bs')
  runs.foldl (fun best run => if best.length < run.length then run else best) ⟨0, 0, 0⟩

def matchedWithin : Nat → List Char → List Char → Nat
  | 0, _, _ => 0
  | depth + 1, as, bs =>
    let run := longestRun as bs
    if run.length = 0 then 0
    else
      run.length + matchedWithin depth (as.take run.first) (bs.take run.second) +
        matchedWithin depth (as.drop (run.first + run.length)) (bs.drop (run.second + run.length))

def matched (as bs : List Char) : Nat := matchedWithin as.length as bs

/-- A known text with how alike it is: the matched characters over the length of both texts. -/
structure Likeness where
  known : String
  matched : Nat
  total : Nat
  deriving DecidableEq, Repr

def likeness (known text : List Char) : Likeness :=
  ⟨String.ofList known, matched known text, known.length + text.length⟩

def Likeness.suffices (l : Likeness) : Bool := 10 * l.matched ≥ 3 * l.total

def Likeness.below (l m : Likeness) : Bool :=
  l.matched * m.total < m.matched * l.total ||
    (l.matched * m.total == m.matched * l.total && l.known < m.known)

def closest? (known : List String) (text : String) : Option String :=
  let alike := (known.map fun k => likeness k.toList text.toList).filter Likeness.suffices
  let best := alike.foldl (fun best l => match best with
    | none => some l
    | some b => some (if b.below l then l else b)) none
  best.map (·.known)

end ReleaseAdvisor.Text
