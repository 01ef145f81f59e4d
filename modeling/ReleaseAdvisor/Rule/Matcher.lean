import ReleaseAdvisor.Commit.Basic
import ReleaseAdvisor.Grammar.Compiled
import ReleaseAdvisor.Rule.Glob

/-!
What a rule asks of one field. A ready pattern or a text between slashes is searched for in the
field's text; a text with a glob sign is a glob for a text as a whole; any other value has to equal
the field.
-/

namespace ReleaseAdvisor

inductive Matcher where
  | equals (expected : Value)
  | glob (source : String)
  | search (pattern : Regex)

namespace Matcher

def accepts (actual : Value) : Matcher → Bool
  | .equals expected => actual.same expected
  | .glob source =>
    match actual with
    | .text s => Glob.matchesText source s
    | _ => false
  | .search p =>
    match actual with
    | .null => false
    | _ => p.occursIn actual.shown.toList

/-- What stands between a slash at the start and one at the end; a line feed may follow the
last. -/
def betweenSlashes? (cs : List Char) : Option (List Char) :=
  match cs with
  | '/' :: rest =>
    match rest.reverse with
    | '/' :: inner => some inner.reverse
    | '\n' :: '/' :: inner => some inner.reverse
    | _ => none
  | _ => none

def isGlobSign (c : Char) : Bool := c == '*' || c == '?' || c == '['

def ofValue : Value → Except Failure Matcher
  | .pattern p => .ok (.search p)
  | .text s =>
    match betweenSlashes? s.toList with
    | some inner =>
      let source := String.ofList inner
      match Regex.read source with
      | .ok p => .ok (.search p)
      | .error fault => .error (Grammar.failureOf fault (.ruleRegexInvalid s source fault))
    | none => .ok (if s.toList.any isGlobSign then .glob s else .equals (.text s))
  | v => .ok (.equals v)

end Matcher
end ReleaseAdvisor
