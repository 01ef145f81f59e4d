import ReleaseAdvisor.Proofs.Entries
import ReleaseAdvisor.Proofs.Outcome
import ReleaseAdvisor.Proofs.Parse

/-!
The parts that a message falls into, and the commit made of them. Each of the fields known by name
comes from its own part; any other field has the value that was put last under its name.
-/

namespace ReleaseAdvisor

open Outcome

namespace Grammar

def reservedNames : List String := ["header", "body", "footer", "notes", "merge", "revert"]

/-- What reading a message finds: the lines that count, the names of header fields, and the fields
that the merge line, the header and the message as a whole give if they match. -/
structure Parts where
  lines : List Line
  names : List Value
  merged : Option Entries
  headed : Option Entries
  reverted : Option Entries

namespace Parts

def header (parts : Parts) : Line :=
  firstLine (if parts.merged.isSome then parts.lines.drop 1 else parts.lines)

def rest (parts : Parts) : List Line :=
  (if parts.merged.isSome then parts.lines.drop 1 else parts.lines).drop 1

def notes (g : Grammar) (parts : Parts) : List Note :=
  let written := (g.contentOf parts.rest).notes
  if written.isEmpty then (g.breakingNote? parts.header).toList else written

def headEntries (parts : Parts) : Entries :=
  parts.names.map (fun name => (name, .null)) ++ parts.merged.getD [] ++ parts.headed.getD []

def reserved (g : Grammar) (parts : Parts) : Entries :=
  [(.text "header", .ofChars parts.header),
    (.text "body", section? (g.contentOf parts.rest).body),
    (.text "footer", section? (g.contentOf parts.rest).footer),
    (.text "notes", .list ((parts.notes g).map Note.value)),
    (.text "merge", if parts.merged.isSome then .ofChars (firstLine parts.lines) else .null),
    (.text "revert", (parts.reverted.map Value.mapping).getD .null)]

def commit (g : Grammar) (parts : Parts) (hash : Value) : Commit :=
  ⟨Entries.putAll [] (parts.headEntries ++ (g.contentOf parts.rest).fields ++ parts.reserved g),
    hash⟩

end Parts

/-- The parts are those that the grammar finds in the text. -/
structure FallsInto (g : Grammar) (text : List Char) (parts : Parts) : Prop where
  lines : g.linesOf text = .ok parts.lines
  names : itemsOf g.headerNames = .ok parts.names
  canName : parts.names.all canName = true
  merged : fieldsOf g.merge (firstLine parts.lines) g.mergeNames = .ok parts.merged
  headed : fieldsOf g.header parts.header g.headerNames = .ok parts.headed
  reverted : fieldsOf g.revert text g.revertNames = .ok parts.reverted

theorem parse_eq_ok {g : Grammar} {message : String} {hash : Value} {c : Commit} :
    g.parse message hash = .ok c ↔ Text.blank message.toList = false ∧
      ∃ parts, g.FallsInto message.toList parts ∧ c = parts.commit g hash := by
  cases blank : Text.blank message.toList with
  | true =>
      constructor
      · intro read
        rw [g.parse_blank message hash blank] at read
        cases read
      · rintro ⟨⟨⟩, _⟩
  | false =>
      unfold parse
      simp only [blank, Bool.false_eq_true, if_false, true_and]
      constructor
      · intro read
        obtain ⟨lines, counted, read⟩ := bind_eq_ok.mp read
        obtain ⟨names, named, read⟩ := bind_eq_ok.mp read
        cases canName : names.all canName with
        | false => simp [canName, throw, throwThe, MonadExceptOf.throw, bind, Except.bind] at read
        | true =>
            simp only [canName, Bool.not_true, Bool.false_eq_true, if_false] at read
            obtain ⟨merged, first, read⟩ := bind_eq_ok.mp read
            obtain ⟨headed, second, read⟩ := bind_eq_ok.mp read
            obtain ⟨reverted, third, read⟩ := bind_eq_ok.mp read
            cases read
            refine ⟨⟨lines, names, merged, headed, reverted⟩,
              ⟨counted, named, canName, first, second, third⟩, ?_⟩
            simp [Parts.commit, Parts.headEntries, Parts.reserved, Parts.rest, Parts.header,
              Parts.notes]
      · rintro ⟨parts, found, rfl⟩
        refine bind_eq_ok.mpr ⟨parts.lines, found.lines, ?_⟩
        refine bind_eq_ok.mpr ⟨parts.names, found.names, ?_⟩
        simp only [found.canName, Bool.not_true, Bool.false_eq_true, if_false]
        refine bind_eq_ok.mpr ⟨parts.merged, found.merged, ?_⟩
        refine bind_eq_ok.mpr ⟨parts.headed, found.headed, ?_⟩
        refine bind_eq_ok.mpr ⟨parts.reverted, found.reverted, ?_⟩
        simp [Parts.commit, Parts.headEntries, Parts.reserved, Parts.rest, Parts.header,
          Parts.notes, pure, Except.pure]

namespace Parts

variable {g : Grammar} {parts : Parts} {hash : Value} {name : String}

theorem field_eq (name : String) : (parts.commit g hash).field name =
    (((parts.reserved g).last? name).or (((g.contentOf parts.rest).fields.last? name).or
      (parts.headEntries.last? name))).getD .null := by
  have found : (parts.commit g hash).fields.get? (.text name) = _ := Entries.get?_putAll [] _ name
  rw [Commit.field, Commit.get, found, Entries.last?_append, Entries.last?_append]
  simp [Entries.get?]

theorem field_reserved {value : Value} (known : (.text name, value) ∈ parts.reserved g) :
    (parts.commit g hash).field name = value := by
  have found : (parts.reserved g).last? name = some value := by
    simp only [reserved, List.mem_cons, Prod.mk.injEq, Value.text.injEq, List.not_mem_nil,
      or_false] at known
    rcases known with
      ⟨rfl, rfl⟩ | ⟨rfl, rfl⟩ | ⟨rfl, rfl⟩ | ⟨rfl, rfl⟩ | ⟨rfl, rfl⟩ | ⟨rfl, rfl⟩ <;>
      simp [Entries.last?, reserved, Entries.get?_cons, Value.same_text]
  rw [field_eq, found]
  rfl

theorem commit_revert :
    (parts.commit g hash).revert = (parts.reverted.map Value.mapping).getD .null :=
  field_reserved (by simp [reserved])

theorem field_free (free : name ∉ reservedNames) :
    (parts.commit g hash).field name = (((g.contentOf parts.rest).fields.last? name).or
      (parts.headEntries.last? name)).getD .null := by
  have keys : (parts.reserved g).map Prod.fst = reservedNames.map Value.text := rfl
  have missing : (parts.reserved g).last? name = none := by
    apply Entries.last?_eq_none
    intro e listed same
    have known : Value.text name ∈ reservedNames.map Value.text :=
      keys ▸ List.mem_map.mpr ⟨e, listed, same⟩
    obtain ⟨_, reserved, ⟨⟩⟩ := List.mem_map.mp known
    exact free reserved
  rw [field_eq, missing, Option.none_or]

end Parts

/-- The options of the grammar have the kinds they are meant to have: the names of groups are
lists of texts, and a comment mark is a text. -/
structure IsTyped (g : Grammar) : Prop where
  headerNames : ∃ names, g.headerNames = texts names
  mergeNames : ∃ names, g.mergeNames = texts names
  revertNames : ∃ names, g.revertNames = texts names
  comment : g.comment = .null ∨ ∃ mark, g.comment = .text mark

/-- The grammar is that of the options: its patterns are theirs, ready for use, and its names and
its comment mark are theirs as they are written. -/
structure IsMadeOf (g : Grammar) (options : Options) : Prop where
  header : compilePattern "header_pattern" options.headerPattern = .ok g.header
  breakingHeader :
    compilePattern "breaking_header_pattern" options.breakingHeaderPattern = .ok g.breakingHeader
  merge : compilePattern "merge_pattern" options.mergePattern = .ok g.merge
  revert : compilePattern "revert_pattern" options.revertPattern = .ok g.revert
  field : compilePattern "field_pattern" options.fieldPattern = .ok g.field
  headerNames : g.headerNames = options.headerCorrespondence
  mergeNames : g.mergeNames = options.mergeCorrespondence
  revertNames : g.revertNames = options.revertCorrespondence
  comment : g.comment = options.commentChar

theorem isMadeOf_of_compile {options : Options} {g : Grammar} (ready : compile options = .ok g) :
    g.IsMadeOf options := by
  obtain ⟨_, header, ready⟩ := bind_eq_ok.mp ready
  obtain ⟨_, breaking, ready⟩ := bind_eq_ok.mp ready
  obtain ⟨_, merge, ready⟩ := bind_eq_ok.mp ready
  obtain ⟨_, revert, ready⟩ := bind_eq_ok.mp ready
  obtain ⟨field, started, ready⟩ := bind_eq_ok.mp ready
  cases grouped : field.any fun p => decide (p.groups = 0) with
  | true => simp [grouped, throw, throwThe, MonadExceptOf.throw, bind, Except.bind] at ready
  | false =>
      simp only [grouped, Bool.false_eq_true, if_false] at ready
      obtain ⟨_, _, ready⟩ := bind_eq_ok.mp ready
      cases ready
      exact ⟨header, breaking, merge, revert, started, rfl, rfl, rfl, rfl⟩

theorem isTyped_of_compile {options : Options} {g : Grammar} (ready : compile options = .ok g)
    (header : ∃ names, options.headerCorrespondence = texts names)
    (merge : ∃ names, options.mergeCorrespondence = texts names)
    (revert : ∃ names, options.revertCorrespondence = texts names)
    (comment : options.commentChar = .null ∨ ∃ mark, options.commentChar = .text mark) :
    g.IsTyped := by
  have made := isMadeOf_of_compile ready
  rw [← made.headerNames] at header
  rw [← made.mergeNames] at merge
  rw [← made.revertNames] at revert
  rw [← made.comment] at comment
  exact ⟨header, merge, revert, comment⟩

theorem correspond_unnamed {p : Regex} (unnamed : p.names = []) (found : Regex.Found)
    (names : List String) : correspond p found (texts names) =
      .ok (Entries.putAll [] ((names.map .text).zip (found.map Value.ofGroup))) := by
  have named : ((names.map Value.text).zip (found.map Value.ofGroup)).all
      (fun pair => canName pair.1) = true := by
    rw [List.all_eq_true]
    intro pair listed
    obtain ⟨name, _, same⟩ := List.mem_map.mp (List.of_mem_zip listed).1
    rw [← same]
    rfl
  simp [correspond, unnamed, itemsOf, texts, named, bind, Except.bind, pure, Except.pure]

theorem correspond_returns (p : Regex) (found : Regex.Found) (names : List String) :
    ∃ entries, correspond p found (texts names) = .ok entries := by
  cases named : p.names with
  | nil => exact ⟨_, correspond_unnamed named found names⟩
  | cons first later =>
      rw [correspond, named]
      exact ⟨_, rfl⟩

theorem fieldsOf_unnamed {p : Regex} (unnamed : p.names = []) {text : List Char}
    {found : Regex.Found} (matched : p.match? text = some found) (names : List String) :
    fieldsOf (some p) text (texts names) =
      .ok (some (Entries.putAll [] ((names.map .text).zip (found.map Value.ofGroup)))) := by
  simp only [fieldsOf, matched, correspond_unnamed unnamed]
  rfl

theorem fieldsOf_returns (p : Option Regex) (text : List Char) (names : List String) :
    ∃ entries, fieldsOf p text (texts names) = .ok entries := by
  unfold fieldsOf
  split
  · exact ⟨none, rfl⟩
  · rename_i p
    split
    · exact ⟨none, rfl⟩
    · rename_i found _
      obtain ⟨entries, named⟩ := correspond_returns p found names
      exact ⟨some entries, by rw [named]; rfl⟩

theorem isSome_of_fieldsOf {p : Option Regex} {text : List Char} {names : Value}
    {fields : Option Entries} (done : fieldsOf p text names = .ok fields) :
    fields.isSome = (p.bind fun p => p.match? text).isSome := by
  unfold fieldsOf at done
  split at done
  · cases done
    rfl
  · rename_i p
    split at done
    · rename_i missed
      cases done
      simp [missed]
    · rename_i found matched
      obtain ⟨entries, _, rfl⟩ := map_eq_ok.mp done
      simp [matched]

theorem withoutComments_returns {g : Grammar} (typed : g.IsTyped) (lines : List Line) :
    ∃ counted, g.withoutComments lines = .ok counted := by
  unfold withoutComments
  split
  · rename_i marked
    rcases typed.comment with unset | ⟨mark, set⟩
    · rw [unset] at marked
      cases marked
    · refine ⟨_, filterM_eq_ok (q := fun line => !mark.toList.isPrefixOf line) lines ?_⟩
      intro line
      rw [isComment, set]
      rfl
  · exact ⟨lines, rfl⟩

theorem parse_returns {g : Grammar} (typed : g.IsTyped) {message : String} (hash : Value)
    (said : Text.blank message.toList = false) : ∃ c, g.parse message hash = .ok c := by
  obtain ⟨headerNames, headers⟩ := typed.headerNames
  obtain ⟨mergeNames, merges⟩ := typed.mergeNames
  obtain ⟨revertNames, reverts⟩ := typed.revertNames
  obtain ⟨counted, comments⟩ := withoutComments_returns typed (Text.lines message.toList)
  have lines : g.linesOf message.toList = .ok (trimLines counted) := by
    rw [linesOf, comments]
    rfl
  obtain ⟨merged, first⟩ := fieldsOf_returns g.merge (firstLine (trimLines counted)) mergeNames
  obtain ⟨headed, second⟩ := fieldsOf_returns g.header
    (firstLine (if merged.isSome then (trimLines counted).drop 1 else trimLines counted))
    headerNames
  obtain ⟨reverted, third⟩ := fieldsOf_returns g.revert message.toList revertNames
  let parts : Parts := ⟨trimLines counted, headerNames.map .text, merged, headed, reverted⟩
  have found : g.FallsInto message.toList parts := by
    refine ⟨lines, ?_, ?_, ?_, ?_, ?_⟩
    · rw [headers]
      rfl
    · rw [List.all_map, List.all_eq_true]
      exact fun _ _ => rfl
    · rw [merges]
      exact first
    · rw [headers]
      exact second
    · rw [reverts]
      exact third
  exact ⟨parts.commit g hash, parse_eq_ok.mpr ⟨said, parts, found, rfl⟩⟩

end Grammar
end ReleaseAdvisor
