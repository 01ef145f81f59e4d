import ReleaseAdvisor.Grammar.Options
import ReleaseAdvisor.Report

/-!
Grammars ready for use. Every pattern is read once; one that is unsound, or a field pattern without
a group, is reported before any message is read.
-/

namespace ReleaseAdvisor

open Pattern (Node Pace Fault)

structure Grammar where
  header : Option Regex
  breakingHeader : Option Regex
  merge : Option Regex
  revert : Option Regex
  field : Option Regex
  note : Option Regex
  headerNames : Value
  mergeNames : Value
  revertNames : Value
  comment : Value

namespace Grammar

def failureOf (fault : Fault) (report : Report) : Failure :=
  match fault.cause with
  | .repeatTooLarge => .misuse .range
  | .boundTooLong digits => .refusal (.hugeNumber digits)
  | .classFlagsClash => .refusal .classFlagsClash
  | _ => .report report

def compilePattern (option : String) : Value → Except Failure (Option Regex)
  | .null => .ok none
  | .pattern p => .ok (some p)
  | .text source =>
    match Regex.read source with
    | .ok p => .ok (some p)
    | .error fault => .error (failureOf fault (.patternInvalid option source fault))
  | _ => .error (.misuse .kind)

/-- What a value holds one after another: the items of a list, the keys of a mapping, or the
characters of a text. -/
def itemsOf : Value → Except Failure (List Value)
  | .list items => .ok items
  | .mapping entries => .ok (entries.map (·.1))
  | .text s => .ok (s.toList.map fun c => .text c.toString)
  | _ => .error (.misuse .kind)

def textOf : Value → Except Failure String
  | .text s => .ok s
  | _ => .error (.misuse .kind)

def keywordItems (keyword : List Char) : List Pattern.Item :=
  keyword.map fun c => ⟨.one (.point c.toNat .full), .plain⟩

/-- A line that starts a note: blanks, bars and stars; a keyword, up to case and with no letter of
special meaning; colons and blanks; and the text of the note. -/
def noteNode (keywords : List (List Char)) : Node :=
  let blank : Pattern.Member := .named .blank false true
  .ofList [
    .stand .textStart,
    .many (.oneOf [blank, .point '|'.toNat, .point '*'.toNat] true .full) 0 none .greedy,
    .group 1 (Node.ofItems (Pattern.choice .full (keywords.map keywordItems))),
    .many (.oneOf [.point ':'.toNat, blank] true .full) 1 none .greedy,
    .group 2 (.many .inLine 0 none .greedy)]

def notePattern (keywords : List String) : Regex :=
  ⟨"", { ignoreCase := true }, 2, [("title", 1), ("text", 2)],
    noteNode (keywords.map String.toList)⟩

def compileNote (keywords : Value) : Except Failure (Option Regex) :=
  if keywords.truthy then do
    let items ← itemsOf keywords
    return some (notePattern (← items.mapM textOf))
  else .ok none

def compile (options : Options) : Except Failure Grammar := do
  let header ← compilePattern "header_pattern" options.headerPattern
  let breakingHeader ← compilePattern "breaking_header_pattern" options.breakingHeaderPattern
  let merge ← compilePattern "merge_pattern" options.mergePattern
  let revert ← compilePattern "revert_pattern" options.revertPattern
  let field ← compilePattern "field_pattern" options.fieldPattern
  if field.any fun p => p.groups = 0 then
    throw (.report (.fieldWithoutGroup options.fieldPattern))
  let note ← compileNote options.noteKeywords
  return {
    header, breakingHeader, merge, revert, field, note
    headerNames := options.headerCorrespondence
    mergeNames := options.mergeCorrespondence
    revertNames := options.revertCorrespondence
    comment := options.commentChar }

end Grammar
end ReleaseAdvisor
