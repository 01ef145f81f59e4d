import ReleaseAdvisor.Report

/-!
Values offered as decisions. Names of release types, false and null are decisions, and so is the
mark that no rule spoke; anything else is turned down where it is compared.
-/

namespace ReleaseAdvisor

inductive Candidate where
  | unset
  | value (v : Value)

namespace Candidate

def refusalOf (v : Value) : Refusal := if v.hasText then .notRelease v else .unwritableNumber

def decision : Candidate → Except Failure Decision
  | .unset => .ok none
  | .value .null => .ok (some .nothing)
  | .value (.bool false) => .ok (some .suppress)
  | .value (.text s) =>
    match Release.ofName? s with
    | some r => .ok (some (.release r))
    | none => .error (.refusal (refusalOf (.text s)))
  | .value v => .error (.refusal (refusalOf v))

/-- `candidate` is more severe than `current`; the candidate is looked at first. -/
def isHigher (current candidate : Candidate) : Except Failure Bool := do
  let offered ← candidate.decision
  return Decision.isHigher (← current.decision) offered

def highest (candidates : List Candidate) : Except Failure Decision := do
  return Decision.highest (← candidates.mapM decision)

end Candidate
end ReleaseAdvisor
