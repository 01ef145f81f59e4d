import ReleaseAdvisor.Pattern.Fault
import ReleaseAdvisor.Pattern.Syntax

/-!
How many characters a pattern can consume, and the faults that show only on a pattern read whole: a
look behind of no fixed width, and a repetition where the flags forbid it.
-/

namespace ReleaseAdvisor.Pattern

def widthLimit : Nat := 4294967294

def atLeast (n : Nat) : Nat := min n widthLimit

/-- A width of at most so many characters, one more than the greatest standing for all beyond. -/
def atMost (n : Nat) : Nat := min n (widthLimit + 1)

def repeatedWidth (width : Nat × Nat) (least : Nat) (most : Option Nat) : Nat × Nat :=
  (atLeast (width.1 * least), atMost (width.2 * most.getD (widthLimit + 1)))

def Node.width (groups : Nat → Nat × Nat) : Node → Nat × Nat
  | .empty => (0, 0)
  | .one _ => (1, 1)
  | .seq first second =>
    let (a, b) := first.width groups
    let (c, d) := second.width groups
    (atLeast (a + c), atMost (b + d))
  | .either first second =>
    let (a, b) := first.width groups
    let (c, d) := second.width groups
    (min a c, max b d)
  | .many _ least most _ => repeatedWidth (1, 1) least most
  | .loop body least most _ => repeatedWidth (body.width groups) least most
  | .group _ body => body.width groups
  | .atomic body => body.width groups
  | .ahead _ _ => (0, 0)
  | .behind _ _ _ _ => (0, 0)
  | .again index _ => groups index
  | .given _ present absent =>
    let (a, b) := present.width groups
    let (c, d) := absent.width groups
    (min a c, max b d)
  | .stand _ => (0, 0)

def Pace.operatorName : Pace → String
  | .greedy => "MAX_REPEAT"
  | .lazy => "MIN_REPEAT"
  | .possessive => "POSSESSIVE_REPEAT"

/-- The first fault of a pattern read whole, an outer one before those inside it. -/
def Node.fault? (template : Bool) : Node → Option Cause
  | .seq first second => (first.fault? template).orElse fun _ => second.fault? template
  | .either first second => (first.fault? template).orElse fun _ => second.fault? template
  | .many _ _ _ pace => if template then some (.templateRepeat pace.operatorName) else none
  | .loop body _ _ pace =>
    if template then some (.templateRepeat pace.operatorName) else body.fault? template
  | .group _ body => body.fault? template
  | .atomic body => body.fault? template
  | .ahead _ body => body.fault? template
  | .behind _ least most body =>
    if least ≠ most then some .lookbehindWidth else body.fault? template
  | .given _ present absent => (present.fault? template).orElse fun _ => absent.fault? template
  | .empty | .one _ | .again _ _ | .stand _ => none

end ReleaseAdvisor.Pattern
