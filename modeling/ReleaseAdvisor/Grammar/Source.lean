import ReleaseAdvisor.Config
import ReleaseAdvisor.Grammar.Preset
import ReleaseAdvisor.Reference

/-!
Where the options of a grammar come from: a preset, or a module that is named as one; else a module
of the user's own; else, if no single option is given, the first preset. Single options go over
them.
-/

namespace ReleaseAdvisor.Grammar

/-- What a module gives as its options; where it names none, what a call of its own comes to. -/
def givenOptions (attributes : Attributes) : Except Exception Value :=
  match attributes.lookup "PARSER_OPTS" with
  | some (.data .null) | none =>
    match attributes.lookup "parser_opts" with
    | some (.call result) => result
    | _ => .ok .null
  | some (.data value) => .ok value
  | some (.call _) => .ok .null

def moduleLayer (reference : String) (attributes : Attributes) : Except Failure Layer :=
  match givenOptions attributes with
  | .ok (.mapping entries) => .ok ((Value.mapping entries).named?.getD [])
  | .ok _ => .error (.report (.moduleWithoutOptions reference))
  | .error exception => .error (.misuse (.raised exception))

def loadModule (w : Workspace) (role : Role) (reference : String) : Traced Layer := do
  let attributes ← Reference.attributes w (some role) reference
  Traced.ofExcept (moduleLayer reference attributes)

def given? (name : Option String) : Option String := name.filter fun s => !s.isEmpty

def presetModule (name : String) : String := "conventional_changelog_" ++ Text.lower name

def loadBase (w : Workspace) (config : Config) : Traced Layer :=
  match given? config.preset, given? config.grammar with
  | some name, _ =>
    match preset? name with
    | some layer => return layer
    | none => loadModule w (.preset name) (presetModule name)
  | none, some reference => loadModule w (.config reference) reference
  | none, none => return if (config.parserOptions.getD []).isEmpty then angular else []

def loadOptions (w : Workspace) (config : Config) : Traced Options := do
  let base ← loadBase w config
  Traced.say [.grammarLoaded config.preset config.grammar]
  return .ofLayer (mergeLayers [base, config.parserOptions.getD []])

end ReleaseAdvisor.Grammar
