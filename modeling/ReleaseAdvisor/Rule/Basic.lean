import ReleaseAdvisor.Rule.Matcher

/-!
Release rules. A rule asks something of some fields, may ask for notes or for a revert, and says
what to release; of all rules that hold for a commit the most severe one decides.
-/

namespace ReleaseAdvisor

structure Rule where
  fields : List (Value × Matcher)
  ruling : Ruling
  breaking : Bool := false
  revert : Bool := false

namespace Rule

def holds (rule : Rule) (commit : Commit) : Bool :=
  (!rule.breaking || commit.hasNotes) && (!rule.revert || commit.revert.truthy) &&
    rule.fields.all fun (name, matcher) => matcher.accepts (commit.get name)

def isFlag (name : Value) : Bool :=
  match name with
  | .text s => s == "release" || s == "breaking" || s == "revert"
  | _ => false

/-- What a rule's value says to release. One that says nothing known is reported, as far as it has
a text. -/
def rulingOf (value : Value) : Except Failure Ruling :=
  match value with
  | .null => .ok .nothing
  | .bool false => .ok .suppress
  | .text s =>
    match Release.ofName? s with
    | some r => .ok (.release r)
    | none => .error (.report (.releaseUnknown value))
  | _ =>
    if value.hasText then .error (.report (.releaseUnknown value))
    else .error (.refusal .unwritableNumber)

def isTrue (entries : Entries) (name : String) : Bool :=
  match Entries.get? entries (.text name) with
  | some (.bool true) => true
  | _ => false

def ofValue : Value → Except Failure Rule
  | .mapping entries =>
    match Entries.get? entries (.text "release") with
    | none => .error (.report .ruleMalformed)
    | some release => do
      -- A pattern that does not compile is reported before a release that is not known.
      let fields ← (entries.filter fun e => !isFlag e.1).mapM fun (name, value) => do
        return (name, ← Matcher.ofValue value)
      return ⟨fields, ← rulingOf release, isTrue entries "breaking", isTrue entries "revert"⟩
  | _ => .error (.report .ruleMalformed)

end Rule

abbrev RuleSet := List Rule

namespace RuleSet

def ofValue : Value → Except Failure RuleSet
  | .list items => items.mapM Rule.ofValue
  | _ => .error (.report .rulesNotList)

/-- The more severe of the decision so far and those of the rules that hold, up to the first
`major`, which nothing exceeds. -/
def decideFrom (commit : Commit) (best : Decision) : RuleSet → Decision
  | [] => best
  | rule :: rules =>
    if rule.holds commit && Decision.isHigher best (some rule.ruling) then
      if rule.ruling = .release .major then some rule.ruling
      else decideFrom commit (some rule.ruling) rules
    else decideFrom commit best rules

def decide (rules : RuleSet) (commit : Commit) : Decision := decideFrom commit none rules

end RuleSet
end ReleaseAdvisor
