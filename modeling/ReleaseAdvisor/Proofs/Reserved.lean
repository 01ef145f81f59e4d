import ReleaseAdvisor.Proofs.Kinds
import ReleaseAdvisor.Proofs.Sections
import ReleaseAdvisor.Proofs.Text
import ReleaseAdvisor.Proofs.Usual

/-!
The fields known by name. A grammar may give any names to groups, and field lines may bear any
names; under the names that are reserved a commit still holds what their own parts of the message
give. Header and merge line are lines, body and footer are trimmed texts, notes start at note lines
or stand for the header, and a reverted commit is described by the message as a whole.
-/

namespace ReleaseAdvisor

open Outcome

/-! ### Lines -/

namespace Segments

variable {α : Type} {mark? : Line → Option α} {lines : List Line}

theorem mem_snd {segment : α × List Line} (listed : segment ∈ (segments mark? lines).2) :
    (∃ line ∈ lines, mark? line = some segment.1) ∧ segment.2 ⊆ lines := by
  rw [segments_snd] at listed
  obtain ⟨i, _, found⟩ := List.mem_filterMap.mp listed
  obtain ⟨mark, marked, rfl⟩ := Option.map_eq_some_iff.mp found
  obtain ⟨line, present, starts⟩ := Option.bind_eq_some_iff.mp marked
  refine ⟨⟨line, List.mem_of_getElem? present, starts⟩, ?_⟩
  exact ((List.takeWhile_sublist _).trans (List.drop_sublist _ _)).subset

theorem fst_subset : (segments mark? lines).1 ⊆ lines := by
  rw [segments_fst]
  exact List.take_subset _ _

end Segments

namespace Grammar

theorem firstLine_mem (lines : List Line) : firstLine lines = [] ∨ firstLine lines ∈ lines := by
  cases lines with
  | nil => exact .inl rfl
  | cons line lines => exact .inr List.mem_cons_self

theorem outsideFields_subset (g : Grammar) (lines : List Line) :
    outsideFields (segments g.fieldStart? lines).1 (segments g.fieldStart? lines).2 ⊆ lines := by
  refine List.append_subset.mpr ⟨Segments.fst_subset, fun line listed => ?_⟩
  obtain ⟨field, member, own⟩ := List.mem_flatMap.mp listed
  exact (Segments.mem_snd (List.mem_of_mem_filter member)).2 own

theorem mem_of_mem_trimLines {lines : List Line} {line : Line} (listed : line ∈ trimLines lines) :
    line ∈ lines := by
  have kept := (List.dropWhile_sublist _).subset (List.mem_reverse.mp listed)
  exact (List.dropWhile_sublist _).subset (List.mem_reverse.mp kept)

theorem firstLine_trimLines (lines : List Line) :
    firstLine (trimLines lines) = firstLine (lines.dropWhile Text.blank) := by
  cases start : lines.dropWhile Text.blank with
  | nil =>
      rw [trimLines, start]
      rfl
  | cons h later =>
      have said : Text.blank h = false := by
        have rule := List.head?_dropWhile_not Text.blank lines
        rw [start] at rule
        exact rule
      obtain ⟨kept, trimmed, _⟩ := exists_trimLines start said
      rw [trimmed]
      rfl

def isCounted (g : Grammar) (line : Line) : Bool :=
  match g.comment with
  | .text mark => mark.isEmpty || !mark.toList.isPrefixOf line
  | _ => true

theorem withoutComments_eq {g : Grammar} (typed : g.IsTyped) (lines : List Line) :
    g.withoutComments lines = .ok (lines.filter g.isCounted) := by
  rw [withoutComments]
  rcases typed.comment with unset | ⟨mark, set⟩
  · have all : lines.filter g.isCounted = lines :=
      List.filter_eq_self.mpr fun line _ => by rw [isCounted, unset]
    rw [unset, all]
    rfl
  · rw [set]
    cases empty : mark.isEmpty with
    | true =>
        have all : lines.filter g.isCounted = lines :=
          List.filter_eq_self.mpr fun line _ => by simp [isCounted, set, empty]
        simp [Value.truthy, empty, all]
    | false =>
        have marked : (Value.text mark).truthy = true := by simp [Value.truthy, empty]
        rw [if_pos marked]
        refine filterM_eq_ok lines fun line => ?_
        simp [isComment, isCounted, set, empty, Except.map]

def firstCounted (g : Grammar) (message : List Char) : Line :=
  firstLine (((Text.lines message).filter g.isCounted).dropWhile Text.blank)

section Lines

variable {g : Grammar} {text : List Char} {parts : Parts} (found : g.FallsInto text parts)

include found

theorem FallsInto.lines_eq (typed : g.IsTyped) :
    parts.lines = trimLines ((Text.lines text).filter g.isCounted) := by
  have lines := found.lines
  rw [linesOf, withoutComments_eq typed] at lines
  exact (Except.ok.inj lines).symm

theorem FallsInto.firstLine_eq (typed : g.IsTyped) :
    firstLine parts.lines = g.firstCounted text := by
  rw [found.lines_eq typed, firstLine_trimLines]
  rfl

theorem FallsInto.lines_subset (typed : g.IsTyped) : parts.lines ⊆ Text.lines text := by
  rw [found.lines_eq typed]
  exact fun line listed => List.mem_of_mem_filter (mem_of_mem_trimLines listed)

end Lines

theorem Parts.header_mem (parts : Parts) : parts.header = [] ∨ parts.header ∈ parts.lines := by
  have within : (if parts.merged.isSome then parts.lines.drop 1 else parts.lines) ⊆
      parts.lines := by
    split
    · exact (List.drop_sublist _ _).subset
    · exact List.Subset.refl _
  exact (firstLine_mem _).imp_right fun listed => within listed

theorem Parts.rest_subset (parts : Parts) : parts.rest ⊆ parts.lines := by
  have shape : parts.rest = parts.lines.drop (if parts.merged.isSome then 2 else 1) := by
    rw [Parts.rest]
    split <;> simp
  rw [shape]
  exact (List.drop_sublist _ _).subset

/-! ### What each field holds -/

/-- Nothing, or a text that is not empty and has no blanks at its ends. -/
inductive IsSection : Value → Prop
  | none : IsSection .null
  | text {cs : List Char} (some : cs ≠ []) (first : ∀ x ∈ cs.head?, Text.isBlank x = false)
      (last : ∀ x ∈ cs.getLast?, Text.isBlank x = false) : IsSection (.ofChars cs)

theorem isSection_section? (lines : List Line) : IsSection (section? lines) := by
  rw [section?]
  obtain ⟨_, _, _, _, _, first, last⟩ := Text.exists_trimChars Text.isBlank (joinLines lines)
  split
  · exact .none
  · rename_i some
    exact .text (fun empty => some (by rw [empty]; rfl)) first last

/-- The notes of a message with a header: one starts at a note line and runs over later lines, or
it stands for the header. -/
inductive IsNoteOf (g : Grammar) (message : List Char) (h : Line) : Note → Prop
  | line {line : Line} {start : List Char × List Char} {later : List Line}
      (listed : line ∈ Text.lines message) (starts : g.noteStart? line = some start)
      (within : later ⊆ Text.lines message) : IsNoteOf g message h (noteOf start later)
  | header {note : Note} (breaks : g.breakingNote? h = some note) : IsNoteOf g message h note

theorem isNoteOf_of_mem_notes {g : Grammar} {message : List Char} {parts : Parts} {note : Note}
    (within : parts.rest ⊆ Text.lines message) (listed : note ∈ parts.notes g) :
    IsNoteOf g message parts.header note := by
  rw [Parts.notes] at listed
  split at listed
  · exact .header (Option.mem_toList.mp listed)
  · obtain ⟨segment, member, rfl⟩ := List.mem_map.mp listed
    obtain ⟨⟨line, free, starts⟩, own⟩ := Segments.mem_snd member
    have known : ∀ l, l ∈ _ → l ∈ Text.lines message := fun l listed =>
      within (outsideFields_subset g parts.rest listed)
    exact .line (known line free) starts fun l listed => known l (own listed)

/-- What a commit holds under the reserved names. The header is a line of the message, and the merge
line is the first one that counts, if the merge pattern matches it. Body and footer are trimmed
texts. The notes are texts under titles. A reverted commit is described if the revert pattern
matches the message, and then by that match. -/
structure HasReserved (g : Grammar) (message : List Char) (h : Line) (c : Commit) : Prop where
  header : c.field "header" = .ofChars h
  line : h = [] ∨ h ∈ Text.lines message
  merge : c.field "merge" =
    if (g.merge.bind fun p => p.match? (g.firstCounted message)).isSome
      then .ofChars (g.firstCounted message) else .null
  body : IsSection (c.field "body")
  footer : IsSection (c.field "footer")
  notes : ∃ notes : List Note, c.field "notes" = .list (notes.map Note.value) ∧
    ∀ note ∈ notes, IsNoteOf g message h note
  silent : (g.revert.bind fun p => p.match? message) = none → c.revert = .null
  described : ∀ p found, g.revert = some p → p.match? message = some found →
    ∃ entries, correspond p found g.revertNames = .ok entries ∧ c.revert = .mapping entries

theorem FallsInto.hasReserved {g : Grammar} {text : List Char} {parts : Parts}
    (found : g.FallsInto text parts) (typed : g.IsTyped) (hash : Value) :
    g.HasReserved text parts.header (parts.commit g hash) := by
  have lines := found.lines_subset typed
  have known {name : String} {value : Value} (listed : (.text name, value) ∈ parts.reserved g) :
      (parts.commit g hash).field name = value := Parts.field_reserved listed
  constructor
  · exact known (by simp [Parts.reserved])
  · exact parts.header_mem.imp_right fun listed => lines listed
  · rw [← found.firstLine_eq typed, ← isSome_of_fieldsOf found.merged]
    exact known (by simp [Parts.reserved])
  · have body : (.text "body", section? (g.contentOf parts.rest).body) ∈ parts.reserved g := by
      simp [Parts.reserved]
    rw [known body]
    exact isSection_section? _
  · have footer : (.text "footer", section? (g.contentOf parts.rest).footer) ∈
        parts.reserved g := by
      simp [Parts.reserved]
    rw [known footer]
    exact isSection_section? _
  · refine ⟨parts.notes g, known (by simp [Parts.reserved]), fun note listed => ?_⟩
    exact isNoteOf_of_mem_notes (fun line later => lines (parts.rest_subset later)) listed
  · intro unmatched
    have none := isSome_of_fieldsOf found.reverted
    rw [unmatched, Option.isSome_none, Option.isSome_eq_false_iff, Option.isNone_iff_eq_none]
      at none
    rw [Parts.commit_revert, none]
    rfl
  · intro p groups given matched
    have fields := found.reverted
    rw [given, fieldsOf, matched] at fields
    obtain ⟨entries, named, reverted⟩ := map_eq_ok.mp fields
    refine ⟨entries, named, ?_⟩
    rw [Parts.commit_revert, ← reverted]
    rfl

/-- A grammar whose options have the right kinds reads every message that is not blank, and the
commit holds under the reserved names what their own parts of the message give. -/
theorem parse_reserved {options : Options} (kinds : options.IsTyped) {g : Grammar}
    (ready : compile options = .ok g) (message : String) (hash : Value)
    (said : Text.blank message.toList = false) :
    ∃ c h, g.parse message hash = .ok c ∧ g.HasReserved message.toList h c := by
  have typed := isTyped_of_compile ready kinds.headerNames kinds.mergeNames kinds.revertNames
    kinds.comment
  obtain ⟨c, read⟩ := parse_returns typed hash said
  obtain ⟨_, parts, found, rfl⟩ := parse_eq_ok.mp read
  exact ⟨_, parts.header, read, found.hasReserved typed hash⟩

end Grammar

namespace Sample

def forgingOptions : Grammar.Options :=
  { headerPattern := .text "^(?P<notes>\\w+): (?P<revert>.*)$" }

def forged : String := "feat: New call\n-notes-\na note\n-revert-\nthis\n-merge-\nmain"

end Sample

open Sample

theorem Grammar.parse_reserved_forged : forgingOptions.IsTyped ∧
    Text.blank forged.toList = false ∧ ∃ g c, compile forgingOptions = .ok g ∧
      g.parse forged (.text "a1") = .ok c ∧ c.field "notes" = .list [] ∧
      c.field "merge" = .null ∧ c.revert = .null := by
  have kinds : forgingOptions.IsTyped := { Options.isTyped_default with
    headerPattern := .written _ }
  have said : Text.blank forged.toList = false := by decide +kernel
  have made : ∃ g, compile forgingOptions = .ok g ∧ g.merge = none ∧ g.breakingHeader = none ∧
      (∀ line ∈ Text.lines forged.toList, g.noteStart? line = none) ∧
      (g.revert.bind fun p => p.match? forged.toList) = none := by
    decide +kernel
  obtain ⟨g, ready, unmerged, mild, plain, kept⟩ := made
  obtain ⟨c, h, read, reserved⟩ := parse_reserved kinds ready forged (.text "a1") said
  refine ⟨kinds, said, g, c, ready, read, ?_, ?_, reserved.silent kept⟩
  · obtain ⟨notes, listed, origin⟩ := reserved.notes
    have none : notes = [] := by
      refine List.eq_nil_iff_forall_not_mem.mpr fun note member => ?_
      cases origin note member with
      | line within starts _ =>
          rw [plain _ within] at starts
          cases starts
      | header breaks =>
          rw [breakingNote?, mild] at breaks
          cases breaks
    rw [listed, none]
    rfl
  · rw [reserved.merge, unmerged]
    rfl

end ReleaseAdvisor
