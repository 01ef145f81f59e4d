import ReleaseAdvisor.Commit.Basic
import ReleaseAdvisor.Grammar.Compiled

/-!
Reading a message by a grammar. Its lines, without comments and without blank lines at the ends,
begin with a header, before which a merge line may stand. The lines after it are cut at field
lines; those outside of fields are the body up to the first note and the footer from there on,
which falls into notes. The fields known by name come last, so that no other field can stand for
one of them.
-/

namespace ReleaseAdvisor

abbrev Line := List Char

/-- The first lines, up to the first one with a mark, and then every marked line's mark with the
lines up to the next one. -/
def segments {α : Type} (mark? : Line → Option α) : List Line → List Line × List (α × List Line)
  | [] => ([], [])
  | line :: rest =>
    let (lines, later) := segments mark? rest
    match mark? line with
    | some mark => ([], (mark, lines) :: later)
    | none => (line :: lines, later)

def joinLines (lines : List Line) : List Char := Text.join ['\n'] lines

def Value.ofChars (cs : List Char) : Value := .text (String.ofList cs)

def Value.ofGroup (group : Option (List Char)) : Value := (group.map Value.ofChars).getD .null

def section? (lines : List Line) : Value :=
  let text := Text.strip (joinLines lines)
  if text.isEmpty then .null else .ofChars text

namespace Grammar

def canName : Value → Bool
  | .list _ | .mapping _ => false
  | _ => true

/-- The fields of a match: the groups that have a name, or else the groups in order under the given
names. -/
def correspond (p : Regex) (found : Regex.Found) (names : Value) : Except Failure Entries := do
  if p.names.isEmpty then
    let pairs := (← itemsOf names).zip (found.map Value.ofGroup)
    if pairs.all fun pair => canName pair.1 then return Entries.putAll [] pairs
    else throw (.misuse .kind)
  else
    return Entries.putAll [] (p.names.map fun (name, index) =>
      (.text name, .ofGroup (found[index - 1]?.join)))

def fieldsOf (p : Option Regex) (text : List Char) (names : Value) :
    Except Failure (Option Entries) :=
  match p with
  | none => .ok none
  | some p =>
    match p.match? text with
    | none => .ok none
    | some found => (correspond p found names).map some

def startsWithAny (line : Line) : List Value → Except Failure Bool
  | [] => .ok false
  | .text mark :: marks =>
    if mark.toList.isPrefixOf line then .ok true else startsWithAny line marks
  | _ :: _ => .error (.misuse .kind)

def isComment (g : Grammar) (line : Line) : Except Failure Bool :=
  match g.comment with
  | .text mark => .ok (mark.toList.isPrefixOf line)
  | .list marks => startsWithAny line marks
  | _ => .error (.misuse .kind)

def withoutComments (g : Grammar) (lines : List Line) : Except Failure (List Line) :=
  if g.comment.truthy then lines.filterM fun line => (g.isComment line).map not else .ok lines

def trimLines (lines : List Line) : List Line :=
  ((lines.dropWhile Text.blank).reverse.dropWhile Text.blank).reverse

def fieldStart? (g : Grammar) (line : Line) : Option (Option (List Char)) :=
  (g.field.bind fun p => p.match? line).map fun found => found.head?.join

def noteStart? (g : Grammar) (line : Line) : Option (List Char × List Char) :=
  (g.note.bind fun p => p.match? line).map fun found =>
    ((found[0]?.join).getD [], (found[1]?.join).getD [])

structure Note where
  title : List Char
  text : List Char
  deriving DecidableEq, Repr

def Note.value (note : Note) : Value :=
  .mapping [(.text "title", .ofChars note.title), (.text "text", .ofChars note.text)]

def noteOf (start : List Char × List Char) (lines : List Line) : Note :=
  ⟨start.1, Text.strip (joinLines (start.2 :: lines))⟩

def fieldEntry (name : Option (List Char)) (lines : List Line) : Value × Value :=
  (.ofGroup name, if name.isNone || lines.isEmpty then .null else .ofChars (joinLines lines))

structure Content where
  body : List Line
  footer : List Line
  notes : List Note
  fields : Entries

/-- The lines after a field line without a name belong to no field. -/
def outsideFields (before : List Line) (fields : List (Option (List Char) × List Line)) :
    List Line :=
  before ++ (fields.filter fun f => f.1.isNone).flatMap (·.2)

def contentOf (g : Grammar) (lines : List Line) : Content :=
  let (before, fields) := segments g.fieldStart? lines
  let free := outsideFields before fields
  let (body, notes) := segments g.noteStart? free
  { body
    footer := free.drop body.length
    notes := notes.map fun (start, lines) => noteOf start lines
    fields := fields.map fun (name, lines) => fieldEntry name lines }

/-- The note that a breaking header stands for: its last group, or the header if it has none. -/
def breakingNote? (g : Grammar) (header : Line) : Option Note :=
  (g.breakingHeader.bind fun p => p.match? header).map fun found =>
    ⟨"BREAKING CHANGE".toList, match found.getLast? with
      | none => header
      | some group => group.getD []⟩

def linesOf (g : Grammar) (message : List Char) : Except Failure (List Line) :=
  (g.withoutComments (Text.lines message)).map trimLines

def firstLine (lines : List Line) : Line := lines.headD []

def parse (g : Grammar) (message : String) (hash : Value := .text "") : Except Failure Commit := do
  let text := message.toList
  if Text.blank text then throw (.refusal .emptyMessage)
  let lines ← g.linesOf text
  let names ← itemsOf g.headerNames
  if !names.all canName then throw (.misuse .kind)
  let first := firstLine lines
  let merged? ← fieldsOf g.merge first g.mergeNames
  let lines := if merged?.isSome then lines.drop 1 else lines
  let header := firstLine lines
  let headerFields? ← fieldsOf g.header header g.headerNames
  let content := g.contentOf (lines.drop 1)
  let notes := if content.notes.isEmpty then (g.breakingNote? header).toList else content.notes
  let reverted? ← fieldsOf g.revert text g.revertNames
  let fields := [
    names.map fun name => (name, Value.null),
    merged?.getD [],
    headerFields?.getD [],
    content.fields,
    [(.text "header", .ofChars header),
      (.text "body", section? content.body),
      (.text "footer", section? content.footer),
      (.text "notes", .list (notes.map Note.value)),
      (.text "merge", if merged?.isSome then .ofChars first else .null),
      (.text "revert", (reverted?.map Value.mapping).getD .null)]]
  return ⟨Entries.putAll [] fields.flatten, hash⟩

end Grammar
end ReleaseAdvisor
