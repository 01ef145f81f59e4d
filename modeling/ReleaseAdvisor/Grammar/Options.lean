import ReleaseAdvisor.Grammar.Key
import ReleaseAdvisor.Pattern.Match
import ReleaseAdvisor.Pattern.Reader
import ReleaseAdvisor.Value

/-!
The options of a commit grammar as they are stored: layers of named options merge into one, and
from it come the ten options that a grammar knows. Their values are kept as given, so that a wrong
one shows only when it is used.
-/

namespace ReleaseAdvisor.Grammar

abbrev Layer := List (String × Value)

/-- Puts an option to those merged so far: a mapping over a mapping adds its entries, and any other
value takes the place of the old one. -/
def mergeEntry (merged : Layer) (key : String) (value : Value) : Layer :=
  match merged with
  | [] => [(key, value)]
  | (k, old) :: rest =>
    if k == key then
      let merged := match old, value with
        | .mapping es, .mapping fs => .mapping (Entries.putAll es fs)
        | _, value => value
      (k, merged) :: rest
    else (k, old) :: mergeEntry rest key value

/-- All layers in one under normalized keys, which keep the place of their first writing. -/
def mergeLayers (layers : List Layer) : Layer :=
  layers.flatten.foldl (fun merged (key, value) => mergeEntry merged (normalizeKey key) value) []

def known (source : String) (flags : Pattern.Flags := {}) : Regex :=
  match Regex.read source flags with
  | .ok r => r
  | .error _ => ⟨source, flags, 0, [], .empty⟩

def defaultHeader : Regex := known "^(\\w*)(?:\\((.*)\\))?: (.*)$"

def defaultRevert : Regex :=
  known "^(?:Revert|revert:)\\s\"?([\\s\\S]+?)\"?\\s*This reverts commit (\\w*)\\."
    { ignoreCase := true }

def texts (names : List String) : Value := .list (names.map .text)

/-- The options of a grammar. Patterns: of the header, whose named groups are fields or else whose
groups in order are named by the correspondence; of a header that is breaking by itself; of a merge
line before the header; of a whole message that reverts a commit; of a line that starts a field.
Lists: names of groups, and the words that start a note. Lines that start with the comment mark are
left out. -/
structure Options where
  headerPattern : Value := .pattern defaultHeader
  headerCorrespondence : Value := texts ["type", "scope", "subject"]
  breakingHeaderPattern : Value := .null
  mergePattern : Value := .null
  mergeCorrespondence : Value := .list []
  revertPattern : Value := .pattern defaultRevert
  revertCorrespondence : Value := texts ["header", "hash"]
  noteKeywords : Value := texts ["BREAKING CHANGE", "BREAKING-CHANGE"]
  fieldPattern : Value := .text "^-(.*?)-$"
  commentChar : Value := .null
  deriving Inhabited

def commaParts (s : String) : List String :=
  ((Text.splitAt (· == ',') s.toList).map Text.strip).filterMap fun part =>
    if part.isEmpty then none else some (String.ofList part)

/-- A list option may be written as one text with commas. -/
def listOption : Value → Value
  | .text s => texts (commaParts s)
  | value => value

def Options.set (options : Options) (key : String) (value : Value) : Options :=
  match key with
  | "header_pattern" => { options with headerPattern := value }
  | "header_correspondence" => { options with headerCorrespondence := listOption value }
  | "breaking_header_pattern" => { options with breakingHeaderPattern := value }
  | "merge_pattern" => { options with mergePattern := value }
  | "merge_correspondence" => { options with mergeCorrespondence := listOption value }
  | "revert_pattern" => { options with revertPattern := value }
  | "revert_correspondence" => { options with revertCorrespondence := listOption value }
  | "note_keywords" => { options with noteKeywords := listOption value }
  | "field_pattern" => { options with fieldPattern := value }
  | "comment_char" => { options with commentChar := value }
  | _ => options

def Options.ofLayer (layer : Layer) : Options :=
  layer.foldl (fun options (key, value) => options.set (normalizeKey key) value) {}

end ReleaseAdvisor.Grammar
