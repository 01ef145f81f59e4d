import ReleaseAdvisor.Reference
import ReleaseAdvisor.Rule.Basic

/-!
Where the user's own rules come from: they are written in the configuration, or a text there refers
to a module or a data file that holds them.
-/

namespace ReleaseAdvisor.RuleSet

/-- The rules in what a reference stands for: an attribute of a module, the member `rules` of a
mapping, or other data as a whole. -/
def within : Reference.Loaded → Value
  | .code attributes =>
    match attributes.lookup "RELEASE_RULES" with
    | some (.data value) => value
    | _ => .null
  | .data (.mapping entries) => (Entries.get? entries (.text "rules")).getD (.mapping entries)
  | .data value => value

def load (w : Workspace) : Value → Traced (Option RuleSet)
  | .null => return none
  | .text reference => do
    let loaded ← Reference.load w reference
    let rules ← Traced.ofExcept (ofValue (within loaded))
    Traced.say [.rulesLoaded reference rules.length]
    return some rules
  | value => return some (← Traced.ofExcept (ofValue value))

end ReleaseAdvisor.RuleSet
