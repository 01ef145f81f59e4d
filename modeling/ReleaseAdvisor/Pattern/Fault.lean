import ReleaseAdvisor.Number.Limit
import ReleaseAdvisor.Text.Quoted

/-!
Why a text is no pattern, and where. Each cause has one wording.
-/

namespace ReleaseAdvisor.Pattern

open Text (quoted)

inductive Cause where
  | danglingEscape
  | badEscape (escape : String)
  | incompleteEscape (escape : String)
  | octalTooLarge (escape : String)
  | missingBrace
  | unknownCharacter (name : String)
  | missingName (what : String)
  | unterminatedName (closing : Char)
  | badGroupName (name : String)
  | unknownGroup (name : String)
  | groupRedefined (name : String) (index earlier : Nat)
  | badGroupNumber
  | openGroup
  | groupInLookbehind
  | invalidGroup (index : Nat)
  | unterminatedClass
  | badRange (first last : String)
  | boundsReversed
  | nothingToRepeat
  | multipleRepeat
  | unexpectedEnd
  | unknownExtension (text : String)
  | unterminatedComment
  | unterminatedGroup
  | unbalancedParenthesis
  | tooManyBranches
  | misplacedFlags
  | unknownFlag
  | missingFlag
  | missingColon
  | missingFlagEnd
  | localeFlag
  | incompatibleFlags
  | globalFlagOn
  | globalFlagOff
  | kindFlagOff
  | flagOnAndOff
  | lookbehindWidth
  | templateRepeat (repetition : String)
  | repeatTooLarge
  | boundTooLong (digits : Nat)
  | classFlagsClash
  deriving DecidableEq, Repr

def Cause.text : Cause → String
  | .danglingEscape => "bad escape (end of pattern)"
  | .badEscape escape => "bad escape " ++ escape
  | .incompleteEscape escape => "incomplete escape " ++ escape
  | .octalTooLarge escape => "octal escape value " ++ escape ++ " outside of range 0-0o377"
  | .missingBrace => "missing \x7b"
  | .unknownCharacter name => "undefined character name " ++ quoted name
  | .missingName what => "missing " ++ what
  | .unterminatedName closing => "missing " ++ closing.toString ++ ", unterminated name"
  | .badGroupName name => "bad character in group name " ++ quoted name
  | .unknownGroup name => "unknown group name " ++ quoted name
  | .groupRedefined name index earlier =>
    "redefinition of group name " ++ quoted name ++ " as group " ++ toString index ++
      "; was group " ++ toString earlier
  | .badGroupNumber => "bad group number"
  | .openGroup => "cannot refer to an open group"
  | .groupInLookbehind => "cannot refer to group defined in the same lookbehind subpattern"
  | .invalidGroup index => "invalid group reference " ++ toString index
  | .unterminatedClass => "unterminated character set"
  | .badRange first last => "bad character range " ++ first ++ "-" ++ last
  | .boundsReversed => "min repeat greater than max repeat"
  | .nothingToRepeat => "nothing to repeat"
  | .multipleRepeat => "multiple repeat"
  | .unexpectedEnd => "unexpected end of pattern"
  | .unknownExtension text => "unknown extension ?" ++ text
  | .unterminatedComment => "missing ), unterminated comment"
  | .unterminatedGroup => "missing ), unterminated subpattern"
  | .unbalancedParenthesis => "unbalanced parenthesis"
  | .tooManyBranches => "conditional backref with more than two branches"
  | .misplacedFlags => "global flags not at the start of the expression"
  | .unknownFlag => "unknown flag"
  | .missingFlag => "missing flag"
  | .missingColon => "missing :"
  | .missingFlagEnd => "missing -, : or )"
  | .localeFlag => "bad inline flags: cannot use 'L' flag with a str pattern"
  | .incompatibleFlags => "bad inline flags: flags 'a', 'u' and 'L' are incompatible"
  | .globalFlagOn => "bad inline flags: cannot turn on global flag"
  | .globalFlagOff => "bad inline flags: cannot turn off global flag"
  | .kindFlagOff => "bad inline flags: cannot turn off flags 'a', 'u' and 'L'"
  | .flagOnAndOff => "bad inline flags: flag turned on and off"
  | .lookbehindWidth => "look-behind requires fixed-width pattern"
  | .repeatTooLarge => "the repetition number is too large"
  | .boundTooLong digits => tooLongText (some digits)
  | .classFlagsClash => "ASCII and UNICODE flags are incompatible"
  | .templateRepeat repetition => "internal: unsupported template operator " ++ repetition

structure Fault where
  cause : Cause
  pos : Option Nat
  deriving DecidableEq, Repr

def lineAndColumn (cs : List Char) (pos : Nat) : Nat × Nat :=
  let before := cs.take pos
  ((before.filter (· == '\n')).length + 1, (before.reverse.takeWhile (· != '\n')).length + 1)

/-- The wording of a fault in a pattern. The line and column are given only for several lines. -/
def Fault.message (source : String) (fault : Fault) : String :=
  match fault.pos with
  | none => fault.cause.text
  | some pos =>
    let cs := source.toList
    let place := fault.cause.text ++ " at position " ++ toString pos
    if cs.contains '\n' then
      let (line, column) := lineAndColumn cs pos
      place ++ " (line " ++ toString line ++ ", column " ++ toString column ++ ")"
    else place

end ReleaseAdvisor.Pattern
