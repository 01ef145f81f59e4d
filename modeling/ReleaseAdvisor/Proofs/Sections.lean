import ReleaseAdvisor.Proofs.Captures
import ReleaseAdvisor.Proofs.Parts

/-!
The sections of a message, told by places. What the lines after the header hold is settled by which
of them start fields and which start notes: the body runs up to the first note, the footer from
there to the first field, a note up to the next one, and a field up to the next one.
-/

namespace ReleaseAdvisor

open Outcome

section Segments

variable {α : Type} {mark? : Line → Option α} {lines : List Line}

def upToNext (mark? : Line → Option α) (lines : List Line) (i : Nat) : List Line :=
  (lines.drop (i + 1)).takeWhile fun line => (mark? line).isNone

def firstMarked (mark? : Line → Option α) (lines : List Line) : Nat :=
  lines.findIdx fun line => (mark? line).isSome

def segmentAt (mark? : Line → Option α) (lines : List Line) (i : Nat) :
    Option (α × List Line) :=
  (lines[i]?.bind mark?).map fun mark => (mark, upToNext mark? lines i)

theorem takeWhile_unmarked (mark? : Line → Option α) (lines : List Line) :
    (lines.takeWhile fun line => (mark? line).isNone) = lines.take (firstMarked mark? lines) := by
  rw [List.takeWhile_eq_take_findIdx_not, firstMarked]
  simp

theorem segments_fst (mark? : Line → Option α) (lines : List Line) :
    (segments mark? lines).1 = lines.take (firstMarked mark? lines) := by
  rw [← takeWhile_unmarked]
  induction lines with
  | nil => rfl
  | cons line lines ih =>
      rw [segments, List.takeWhile_cons, ← ih]
      cases mark? line <;> rfl

theorem segments_snd (mark? : Line → Option α) (lines : List Line) :
    (segments mark? lines).2 = (List.range lines.length).filterMap (segmentAt mark? lines) := by
  induction lines with
  | nil => rfl
  | cons line lines ih =>
      have rest : (List.range lines.length).filterMap (segmentAt mark? (line :: lines) ∘ Nat.succ) =
          (segments mark? lines).2 := by
        rw [ih]
        rfl
      rw [List.length_cons, List.range_succ_eq_map, List.filterMap_cons, List.filterMap_map, rest,
        segments]
      cases marked : mark? line with
      | none => simp [segmentAt, marked]
      | some mark =>
          simp [segmentAt, marked, upToNext, segments_fst, takeWhile_unmarked]

theorem segments_of_unmarked (plain : ∀ line ∈ lines, mark? line = none) :
    segments mark? lines = (lines, []) := by
  induction lines with
  | nil => rfl
  | cons line lines ih =>
      obtain ⟨first, later⟩ := List.forall_mem_cons.mp plain
      rw [segments, ih later, first]

theorem segmentAt_of_lt {i : Nat} (before : i < firstMarked mark? lines) :
    segmentAt mark? lines i = none := by
  have within : i < lines.length := Nat.lt_of_lt_of_le before List.findIdx_le_length
  have unmarked := List.not_of_lt_findIdx before
  rw [segmentAt, List.getElem?_eq_getElem within, Option.bind_some]
  simpa using unmarked

theorem range_eq_append {i n : Nat} (below : i ≤ n) :
    List.range n = List.range i ++ List.range' i (n - i) := by
  have split := @List.range'_append_1 0 i (n - i)
  rw [Nat.zero_add, Nat.add_sub_cancel' below] at split
  rw [List.range_eq_range', List.range_eq_range', split]

theorem segments_snd_from (mark? : Line → Option α) (lines : List Line) :
    (segments mark? lines).2 =
      (List.range' (firstMarked mark? lines) (lines.length - firstMarked mark? lines)).filterMap
        (segmentAt mark? lines) := by
  have idle : (List.range (firstMarked mark? lines)).filterMap (segmentAt mark? lines) = [] := by
    rw [List.filterMap_eq_nil_iff]
    intro i before
    exact segmentAt_of_lt (List.mem_range.mp before)
  rw [segments_snd, range_eq_append List.findIdx_le_length, List.filterMap_append]
  exact congrArg (· ++ _) idle

end Segments

namespace Grammar

/-- The field pattern, if there is one, names a field in every line that it matches. -/
def NamesFields (g : Grammar) : Prop :=
  ∀ p ∈ g.field, ∀ line found, p.match? line = some found → (found.head?.join).isSome = true

theorem namesFields_of_passes {g : Grammar}
    (passes : ∀ p ∈ g.field, 0 < p.groups ∧ p.body.passes 1 = true) : g.NamesFields := by
  intro p given line found matched
  obtain ⟨known, passes⟩ := passes p given
  rw [List.head?_eq_getElem?]
  exact Regex.match?_holds known passes matched

theorem NamesFields.named {g : Grammar} (names : g.NamesFields) {line : Line}
    {name : Option (List Char)} (starts : g.fieldStart? line = some name) : name.isSome = true := by
  obtain ⟨found, matched, rfl⟩ := Option.map_eq_some_iff.mp starts
  obtain ⟨p, given, matched⟩ := Option.bind_eq_some_iff.mp matched
  exact names p given line found matched

def firstField (g : Grammar) (rest : List Line) : Nat := firstMarked g.fieldStart? rest

def freeLines (g : Grammar) (rest : List Line) : List Line := rest.take (g.firstField rest)

def firstNote (g : Grammar) (rest : List Line) : Nat := firstMarked g.noteStart? (g.freeLines rest)

def noteAt (g : Grammar) (lines : List Line) (i : Nat) : Option Note :=
  (lines[i]?.bind g.noteStart?).map fun (title, text) =>
    ⟨title, Text.strip (joinLines (text :: upToNext g.noteStart? lines i))⟩

def notesWithin (g : Grammar) (rest : List Line) : List Note :=
  (List.range' (g.firstNote rest) (g.firstField rest - g.firstNote rest)).filterMap
    (g.noteAt (g.freeLines rest))

theorem length_freeLines (g : Grammar) (rest : List Line) :
    (g.freeLines rest).length = g.firstField rest := by
  rw [freeLines, List.length_take]
  exact Nat.min_eq_left List.findIdx_le_length

theorem firstNote_le (g : Grammar) (rest : List Line) : g.firstNote rest ≤ g.firstField rest := by
  rw [← length_freeLines]
  exact List.findIdx_le_length

theorem outsideFields_named {g : Grammar} (names : g.NamesFields) (rest : List Line) :
    outsideFields (segments g.fieldStart? rest).1 (segments g.fieldStart? rest).2 =
      g.freeLines rest := by
  have all : ((segments g.fieldStart? rest).2.filter fun f => f.1.isNone) = [] := by
    rw [List.filter_eq_nil_iff, segments_snd]
    intro f listed
    obtain ⟨i, _, found⟩ := List.mem_filterMap.mp listed
    obtain ⟨name, starts, rfl⟩ := Option.map_eq_some_iff.mp found
    obtain ⟨line, _, starts⟩ := Option.bind_eq_some_iff.mp starts
    have named := names.named starts
    simp [Option.isSome_iff_ne_none.mp named]
  rw [outsideFields, all, segments_fst]
  exact List.append_nil _

theorem contentOf_eq {g : Grammar} (names : g.NamesFields) (rest : List Line) :
    g.contentOf rest =
      { body := rest.take (g.firstNote rest)
        footer := (g.freeLines rest).drop (g.firstNote rest)
        notes := g.notesWithin rest
        fields := (segments g.fieldStart? rest).2.map
          fun (name, lines) => fieldEntry name lines } := by
  have free := outsideFields_named names rest
  have body : (segments g.noteStart? (g.freeLines rest)).1 = rest.take (g.firstNote rest) := by
    rw [segments_fst]
    change (g.freeLines rest).take (g.firstNote rest) = _
    rw [freeLines, List.take_take, Nat.min_eq_left (firstNote_le g rest)]
  have size : (rest.take (g.firstNote rest)).length = g.firstNote rest := by
    rw [List.length_take]
    exact Nat.min_eq_left (Nat.le_trans (firstNote_le g rest) List.findIdx_le_length)
  have notes : ((segments g.noteStart? (g.freeLines rest)).2.map fun part =>
      noteOf part.1 part.2) = g.notesWithin rest := by
    rw [segments_snd_from, length_freeLines, List.map_filterMap, notesWithin]
    congr 1
    funext i
    rw [segmentAt, noteAt, Option.map_map]
    rfl
  simp only [contentOf, free, body, size, ← notes]

theorem name_of_fieldEntry {other : Option (List Char)} {lines : List Line} {name : List Char}
    (same : (fieldEntry other lines).1 = .text (String.ofList name)) : other = some name := by
  cases other with
  | none => cases same
  | some other =>
      have equal : String.ofList other = String.ofList name := by
        simpa [fieldEntry, Value.ofGroup, Value.ofChars] using same
      rw [String.ofList_injective equal]

theorem last?_fieldEntry_of_unstarted {g : Grammar} {rest : List Line} {name : List Char}
    (unstarted : ∀ line ∈ rest, g.fieldStart? line ≠ some (some name)) :
    Entries.last? ((segments g.fieldStart? rest).2.map fun (name, lines) => fieldEntry name lines)
        (String.ofList name) = none := by
  apply Entries.last?_eq_none
  intro e listed same
  obtain ⟨⟨other, lines⟩, segment, rfl⟩ := List.mem_map.mp listed
  rw [segments_snd] at segment
  obtain ⟨i, _, segment⟩ := List.mem_filterMap.mp segment
  obtain ⟨_, marked, ⟨⟩⟩ := Option.map_eq_some_iff.mp segment
  obtain ⟨line, present, starts⟩ := Option.bind_eq_some_iff.mp marked
  rw [name_of_fieldEntry same] at starts
  exact unstarted line (List.mem_of_getElem? present) starts

theorem last?_fieldEntry {g : Grammar} {rest : List Line} {i : Nat} {name : List Char}
    (starts : rest[i]?.bind g.fieldStart? = some (some name))
    (latest : ∀ j, i < j → rest[j]?.bind g.fieldStart? ≠ some (some name)) :
    Entries.last? ((segments g.fieldStart? rest).2.map fun (name, lines) => fieldEntry name lines)
        (String.ofList name) =
      some (fieldEntry (some name) (upToNext g.fieldStart? rest i)).2 := by
  obtain ⟨line, present, _⟩ := Option.bind_eq_some_iff.mp starts
  obtain ⟨within, _⟩ := List.getElem?_eq_some_iff.mp present
  obtain ⟨later, size⟩ : ∃ later, rest.length - i = later + 1 := ⟨rest.length - i - 1, by omega⟩
  have own : segmentAt g.fieldStart? rest i = some (some name, upToNext g.fieldStart? rest i) := by
    rw [segmentAt, starts]
    rfl
  have unnamed : ∀ e ∈ ((List.range' (i + 1) later).filterMap (segmentAt g.fieldStart? rest)).map
      (fun (name, lines) => fieldEntry name lines), e.1 ≠ .text (String.ofList name) := by
    intro e listed same
    obtain ⟨⟨other, lines⟩, found, rfl⟩ := List.mem_map.mp listed
    obtain ⟨j, after, found⟩ := List.mem_filterMap.mp found
    obtain ⟨_, marked, ⟨⟩⟩ := Option.map_eq_some_iff.mp found
    rw [name_of_fieldEntry same] at marked
    have below : i < j := (List.mem_range'_1.mp after).1
    exact latest j below marked
  rw [segments_snd, range_eq_append (Nat.le_of_lt within), size, List.range'_succ,
    List.filterMap_append, List.filterMap_cons, own, List.map_append, List.map_cons,
    Entries.last?_append, Entries.last?_cons, Entries.last?_eq_none unnamed, Option.none_or]
  have known : (fieldEntry (some name) (upToNext g.fieldStart? rest i)).1.same
      (.text (String.ofList name)) = true := Value.same_text.mpr rfl
  rw [if_pos known]
  rfl

theorem section?_of_strip {lines : List Line} {text : String} (some : text ≠ "")
    (stripped : Text.strip (joinLines lines) = text.toList) : section? lines = .text text := by
  have filled : text.toList.isEmpty = false := by simpa using some
  simp [section?, stripped, filled, Value.ofChars]

/-- The commit has the sections that the lines after its header are cut into. Its body lies before
the first note, its footer between that and the first field. Every note line there is a note, which
runs on to the next one; only without any the header may be one. A field has the lines after the
last line that starts it, up to the next field line. -/
structure HasSections (g : Grammar) (header : Line) (rest : List Line) (c : Commit) : Prop where
  body : c.field "body" = section? (rest.take (g.firstNote rest))
  footer : c.field "footer" = section? ((rest.take (g.firstField rest)).drop (g.firstNote rest))
  notes : c.field "notes" = .list ((if (g.notesWithin rest).isEmpty
    then (g.breakingNote? header).toList else g.notesWithin rest).map Note.value)
  fields : ∀ i name, rest[i]?.bind g.fieldStart? = some (some name) →
    (∀ j, i < j → rest[j]?.bind g.fieldStart? ≠ some (some name)) →
    String.ofList name ∉ reservedNames →
    c.field (String.ofList name) = if (upToNext g.fieldStart? rest i).isEmpty then .null
      else .ofChars (joinLines (upToNext g.fieldStart? rest i))

theorem Parts.hasSections {g : Grammar} (names : g.NamesFields) (parts : Parts) (hash : Value) :
    g.HasSections parts.header parts.rest (parts.commit g hash) := by
  have content := contentOf_eq names parts.rest
  constructor
  · have known : (.text "body", section? (g.contentOf parts.rest).body) ∈ parts.reserved g := by
      simp [Parts.reserved]
    rw [Parts.field_reserved known, content]
  · have known : (.text "footer", section? (g.contentOf parts.rest).footer) ∈ parts.reserved g := by
      simp [Parts.reserved]
    rw [Parts.field_reserved known, content]
    rfl
  · have known : (.text "notes", .list ((parts.notes g).map Note.value)) ∈ parts.reserved g := by
      simp [Parts.reserved]
    rw [Parts.field_reserved known, Parts.notes, content]
  · intro i name starts latest free
    rw [Parts.field_free free, content, last?_fieldEntry starts latest]
    rfl

/-- A message that is not blank has the sections that its lines are cut into, once comment lines,
blank lines at the ends, the merge line and the header are taken away. A grammar whose options have
the right kinds reads every such message. -/
theorem parse_sections (g : Grammar) (names : g.NamesFields) (message : String) (hash : Value)
    (said : Text.blank message.toList = false) :
    (∀ c, g.parse message hash = .ok c →
      ∃ counted, g.withoutComments (Text.lines message.toList) = .ok counted ∧
        let lines := trimLines counted
        let merged := (g.merge.bind fun p => p.match? (firstLine lines)).isSome
        g.HasSections (firstLine (lines.drop (if merged then 1 else 0)))
          (lines.drop (if merged then 2 else 1)) c) ∧
    (g.IsTyped → ∃ c, g.parse message hash = .ok c) := by
  refine ⟨fun c read => ?_, fun typed => parse_returns typed hash said⟩
  obtain ⟨_, parts, found, rfl⟩ := parse_eq_ok.mp read
  obtain ⟨counted, comments, trimmed⟩ := map_eq_ok.mp found.lines
  refine ⟨counted, comments, ?_⟩
  have sections := parts.hasSections names hash
  have merged := isSome_of_fieldsOf found.merged
  rw [Parts.header, Parts.rest, merged, ← trimmed] at sections
  dsimp only
  split
  · rename_i matched
    simpa [matched] using sections
  · rename_i unmatched
    simpa [unmatched] using sections

end Grammar

namespace Sample

def reviewed : String :=
  "feat: New call\n\nSome text.\n\nBREAKING CHANGE: no old call\nUse the new one.\n\n" ++
    "-reviewer-\nAda\n-reviewer-\nGrace\nHedy\n-done-\n"

def reviewedRest : List Line :=
  ["", "Some text.", "", "BREAKING CHANGE: no old call", "Use the new one.", "",
    "-reviewer-", "Ada", "-reviewer-", "Grace", "Hedy", "-done-"].map String.toList

def reviewedMarks : List (Option (Option (List Char))) :=
  List.replicate 6 none ++ [some (some "reviewer".toList), none,
    some (some "reviewer".toList), none, none, some (some "done".toList)]

end Sample

open Sample

theorem Grammar.parse_sections_reviewed :
    ∃ g, compile {} = .ok g ∧ g.NamesFields ∧ g.IsTyped ∧ Text.blank reviewed.toList = false ∧
      ∃ c, g.parse reviewed (.text "") = .ok c ∧
        c.field "body" = .text "Some text." ∧
        c.field "footer" = .text "BREAKING CHANGE: no old call\nUse the new one." ∧
        c.field "notes" = .list [Note.value ⟨"BREAKING CHANGE".toList,
          "no old call\nUse the new one.".toList⟩] ∧
        c.field "reviewer" = .text "Grace\nHedy" ∧ c.field "done" = .null := by
  have ready : ∃ g, compile {} = .ok g ∧ (∀ p ∈ g.field, 0 < p.groups ∧ p.body.passes 1 = true) ∧
      g.withoutComments (Text.lines reviewed.toList) = .ok (Text.lines reviewed.toList) ∧
      g.merge = none ∧ g.firstField reviewedRest = 6 ∧ g.firstNote reviewedRest = 3 ∧
      g.notesWithin reviewedRest = [⟨"BREAKING CHANGE".toList,
        "no old call\nUse the new one.".toList⟩] ∧
      reviewedRest.map g.fieldStart? = reviewedMarks ∧
      upToNext g.fieldStart? reviewedRest 8 = ["Grace".toList, "Hedy".toList] ∧
      upToNext g.fieldStart? reviewedRest 11 = [] := by
    decide +kernel
  obtain ⟨g, compiled, passes, comments, plain, field, note, notes, marks, grace, done⟩ := ready
  have names := namesFields_of_passes passes
  have typed := isTyped_of_compile compiled ⟨_, rfl⟩ ⟨[], rfl⟩ ⟨_, rfl⟩ (.inl rfl)
  have said : Text.blank reviewed.toList = false := by decide +kernel
  have rest : (trimLines (Text.lines reviewed.toList)).drop 1 = reviewedRest := by decide +kernel
  obtain ⟨sections, returns⟩ := parse_sections g names reviewed (.text "") said
  obtain ⟨c, read⟩ := returns typed
  obtain ⟨counted, counts, found⟩ := sections c read
  have same : counted = Text.lines reviewed.toList :=
    Except.ok.inj (counts.symm.trans comments)
  rw [same] at found
  simp only [plain, Option.bind_none, Option.isSome_none, Bool.false_eq_true, if_false,
    rest] at found
  -- The marks were evaluated for the lines there are; further places have no line.
  have starts : ∀ i : Nat, reviewedRest[i]?.bind g.fieldStart? = reviewedMarks[i]?.join := by
    intro i
    rw [← marks, List.getElem?_map]
    cases reviewedRest[i]? <;> rfl
  have latest : ∀ (i : Nat) (name : List Char),
      (∀ j < 12, i < j → reviewedMarks[j]?.join ≠ some (some name)) →
      ∀ j, i < j → reviewedRest[j]?.bind g.fieldStart? ≠ some (some name) := by
    intro i name table j after
    rw [starts]
    by_cases within : j < 12
    · exact table j within after
    · have beyond : reviewedMarks[j]? = none := List.getElem?_eq_none (Nat.le_of_not_lt within)
      simp [beyond]
  refine ⟨g, compiled, names, typed, said, c, read, ?_, ?_, ?_, ?_, ?_⟩
  · rw [found.body, note]
    exact section?_of_strip (by decide) (by decide +kernel)
  · rw [found.footer, field, note]
    exact section?_of_strip (by decide) (by decide +kernel)
  · rw [found.notes, notes]
    rfl
  · have value := found.fields 8 "reviewer".toList (starts 8) (latest 8 _ (by decide)) (by decide)
    rw [grace] at value
    exact value
  · have value := found.fields 11 "done".toList (starts 11) (latest 11 _ (by decide)) (by decide)
    rw [done] at value
    exact value

end ReleaseAdvisor
