import ReleaseAdvisor.Rule.Basic

/-!
The rules that speak when no rule of the user's own does, for the field names of the known
conventions.
-/

namespace ReleaseAdvisor.RuleSet

def fieldRule (name text : String) (release : Release) : Rule :=
  { fields := [(.text name, .equals (.text text))], ruling := .release release }

def default : RuleSet := [
  { fields := [], ruling := .release .major, breaking := true },
  { fields := [], ruling := .release .patch, revert := true },
  fieldRule "type" "feat" .minor,
  fieldRule "type" "fix" .patch,
  fieldRule "type" "perf" .patch,
  fieldRule "emoji" ":racehorse:" .patch,
  fieldRule "emoji" ":bug:" .patch,
  fieldRule "emoji" ":penguin:" .patch,
  fieldRule "emoji" ":apple:" .patch,
  fieldRule "emoji" ":checkered_flag:" .patch,
  fieldRule "tag" "BUGFIX" .patch,
  fieldRule "tag" "FEATURE" .minor,
  fieldRule "tag" "SECURITY" .patch,
  fieldRule "tag" "Breaking" .major,
  fieldRule "tag" "Fix" .patch,
  fieldRule "tag" "Update" .minor,
  fieldRule "tag" "New" .minor,
  fieldRule "component" "perf" .patch,
  fieldRule "component" "deps" .patch,
  fieldRule "type" "FEAT" .minor,
  fieldRule "type" "FIX" .patch]

/-- The decision for one commit: by the user's own rules, and by the default ones if none of those
holds. -/
def decideFor (own : Option RuleSet) (commit : Commit) : Decision :=
  match own.bind fun rules => rules.decide commit with
  | some ruling => some ruling
  | none => default.decide commit

end ReleaseAdvisor.RuleSet
