import Mathlib.Data.List.DropRight
import ReleaseAdvisor.Grammar.Preset
import ReleaseAdvisor.Proofs.Parts

/-!
Messages under the usual grammar, which has no merge line and no comments. Every message that is not
blank is read, and its header is the first line that is not blank.
-/

namespace ReleaseAdvisor

open Outcome

namespace Text

/-! ### Lines -/

theorem toNat_of_isLineEnd {c : Char} (ends : isLineEnd c = true) :
    c.toNat ∈ [10, 11, 12, 13, 28, 29, 30, 133, 8232, 8233] := by
  simp only [isLineEnd, inRanges] at ends
  simp only [List.mem_cons, List.not_mem_nil, or_false]
  split at ends <;> grind

theorem of_isLineEnd {c : Char} (ends : isLineEnd c = true) :
    isBlank c = true ∧ isWordChar c = false := by
  have each : ∀ n ∈ [10, 11, 12, 13, 28, 29, 30, 133, 8232, 8233],
      isBlank (Char.ofNat n) = true ∧ isWordChar (Char.ofNat n) = false := by
    decide +kernel
  rw [← Char.ofNat_toNat c]
  exact each _ (toNat_of_isLineEnd ends)

theorem exists_line {line cs : List Char} {x : Char} (inside : x ∈ line ∨ x ∈ cs) :
    isLineEnd x = true ∨ ∃ l ∈ linesFrom line cs, x ∈ l := by
  induction line, cs using linesFrom.induct with
  | case1 line none =>
      rw [List.isEmpty_iff.mp none] at inside
      simp at inside
  | case2 line some =>
      rcases inside with inside | inside
      · exact .inr ⟨line.reverse, by simp [linesFrom, some], List.mem_reverse.mpr inside⟩
      · cases inside
  | case3 line rest ih =>
      rw [linesFrom]
      rcases inside with inside | inside
      · exact .inr ⟨line.reverse, List.mem_cons_self, List.mem_reverse.mpr inside⟩
      · simp only [List.mem_cons] at inside
        rcases inside with rfl | rfl | inside
        · exact .inl rfl
        · exact .inl rfl
        · exact (ih (.inr inside)).imp_right fun ⟨l, listed, within⟩ => ⟨l, .tail _ listed, within⟩
  | case4 line c rest single ends ih =>
      rw [linesFrom.eq_3 _ _ _ single, if_pos ends]
      rcases inside with inside | inside
      · exact .inr ⟨line.reverse, List.mem_cons_self, List.mem_reverse.mpr inside⟩
      · rcases List.mem_cons.mp inside with rfl | inside
        · exact .inl ends
        · exact (ih (.inr inside)).imp_right fun ⟨l, listed, within⟩ => ⟨l, .tail _ listed, within⟩
  | case5 line c rest single goes ih =>
      rw [linesFrom.eq_3 _ _ _ single, if_neg goes]
      rcases inside with inside | inside
      · exact ih (.inl (.tail _ inside))
      · rcases List.mem_cons.mp inside with rfl | inside
        · exact ih (.inl List.mem_cons_self)
        · exact ih (.inr inside)

theorem isLineEnd_of_mem_linesFrom {line cs l : List Char} (whole : ∀ x ∈ line, isLineEnd x = false)
    (listed : l ∈ linesFrom line cs) : ∀ x ∈ l, isLineEnd x = false := by
  have done : ∀ x ∈ line.reverse, isLineEnd x = false :=
    fun x inside => whole x (List.mem_reverse.mp inside)
  induction line, cs using linesFrom.induct with
  | case1 line none => simp [linesFrom, none] at listed
  | case2 line some =>
      simp only [linesFrom, some, Bool.false_eq_true, if_false, List.mem_singleton] at listed
      rwa [listed]
  | case3 line rest ih =>
      rw [linesFrom] at listed
      rcases List.mem_cons.mp listed with rfl | listed
      · exact done
      · exact ih (List.forall_mem_nil _) listed (List.forall_mem_nil _)
  | case4 line c rest single ends ih =>
      rw [linesFrom.eq_3 _ _ _ single, if_pos ends] at listed
      rcases List.mem_cons.mp listed with rfl | listed
      · exact done
      · exact ih (List.forall_mem_nil _) listed (List.forall_mem_nil _)
  | case5 line c rest single goes ih =>
      rw [linesFrom.eq_3 _ _ _ single, if_neg goes] at listed
      have longer : ∀ x ∈ c :: line, isLineEnd x = false :=
        List.forall_mem_cons.mpr ⟨Bool.eq_false_iff.mpr goes, whole⟩
      exact ih longer listed fun x inside => longer x (List.mem_reverse.mp inside)

theorem exists_said_line {cs : List Char} (said : blank cs = false) :
    ∃ l ∈ lines cs, blank l = false := by
  obtain ⟨x, inside, other⟩ := List.all_eq_false.mp said
  have somewhere : isLineEnd x = true ∨ ∃ l ∈ lines cs, x ∈ l := exists_line (.inr inside)
  rcases somewhere with ends | ⟨l, listed, within⟩
  · exact absurd (of_isLineEnd ends).1 other
  · exact ⟨l, listed, List.all_eq_false.mpr ⟨x, within, other⟩⟩

theorem linesFrom_whole {line cs : List Char} (whole : ∀ c ∈ cs, isLineEnd c = false)
    (more : line ≠ [] ∨ cs ≠ []) : linesFrom line cs = [line.reverse ++ cs] := by
  induction cs generalizing line with
  | nil =>
      have more : line ≠ [] := more.resolve_right fun none => none rfl
      simp [linesFrom, more]
  | cons c cs ih =>
      obtain ⟨first, later⟩ := List.forall_mem_cons.mp whole
      have goes : ¬isLineEnd c = true := by simp [first]
      have single : ∀ rest, c = '\r' → cs = '\n' :: rest → False := by
        rintro rest rfl _
        cases first
      rw [linesFrom.eq_3 _ _ _ single, if_neg goes, ih later (.inl (List.cons_ne_nil c line))]
      simp

theorem lines_single {cs : List Char} (more : cs ≠ []) (whole : ∀ c ∈ cs, isLineEnd c = false) :
    lines cs = [cs] :=
  linesFrom_whole whole (.inr more)

end Text

def saidLines (text : List Char) : List Line := (Text.lines text).dropWhile Text.blank

theorem exists_saidLines {text : List Char} (said : Text.blank text = false) :
    ∃ h later, saidLines text = h :: later ∧ Text.blank h = false := by
  obtain ⟨l, listed, other⟩ := Text.exists_said_line said
  have some : saidLines text ≠ [] := by
    intro none
    have blank := List.dropWhile_eq_nil_iff.mp none l listed
    rw [other] at blank
    cases blank
  refine ⟨(saidLines text).head some, (saidLines text).tail, (List.cons_head_tail some).symm, ?_⟩
  exact List.head_dropWhile_not Text.blank some

namespace Grammar

theorem exists_trimLines {lines : List Line} {h : Line} {later : List Line}
    (start : lines.dropWhile Text.blank = h :: later) (said : Text.blank h = false) :
    ∃ kept, trimLines lines = h :: kept ∧ kept <+: later := by
  have shape : trimLines lines = (h :: later).rdropWhile Text.blank := by
    rw [trimLines, start]
    rfl
  have whole := List.rdropWhile_prefix Text.blank (h :: later)
  cases kept : (h :: later).rdropWhile Text.blank with
  | nil =>
      have blank := List.rdropWhile_eq_nil_iff.mp kept h List.mem_cons_self
      rw [said] at blank
      cases blank
  | cons first kept' =>
      rw [kept, List.cons_prefix_cons] at whole
      obtain ⟨rfl, within⟩ := whole
      exact ⟨kept', shape.trans kept, within⟩

theorem feed_not_mem_of_mem_trimLines {text : List Char} {line : Line}
    (listed : line ∈ trimLines (Text.lines text)) : '\n' ∉ line := by
  have kept := (List.dropWhile_sublist _).subset (List.mem_reverse.mp listed)
  have member : line ∈ Text.lines text :=
    (List.dropWhile_sublist _).subset (List.mem_reverse.mp kept)
  intro feed
  cases Text.isLineEnd_of_mem_linesFrom (List.forall_mem_nil _) member _ feed

/-! ### The usual grammar -/

/-- The grammar is that of the default options, or of the preset for the same headers. -/
def IsUsual (g : Grammar) : Prop := ∃ layer ∈ [[], angular], compile (.ofLayer layer) = .ok g

structure HasPlainLines (g : Grammar) : Prop where
  merge : g.merge = none
  comment : g.comment = .null
  typed : g.IsTyped

structure HasUsualParts (g : Grammar) : Prop where
  header : g.header = some defaultHeader
  merge : g.merge = none
  revert : g.revert = some defaultRevert
  headerNames : g.headerNames = texts ["type", "scope", "subject"]
  revertNames : g.revertNames = texts ["header", "hash"]
  comment : g.comment = .null
  typed : g.IsTyped

theorem HasUsualParts.plainLines {g : Grammar} (usual : g.HasUsualParts) : g.HasPlainLines :=
  ⟨usual.merge, usual.comment, usual.typed⟩

theorem IsMadeOf.hasUsualParts {g : Grammar} {options : Options} (made : g.IsMadeOf options)
    (header : options.headerPattern = .pattern defaultHeader) (merge : options.mergePattern = .null)
    (revert : options.revertPattern = .pattern defaultRevert)
    (headerNames : options.headerCorrespondence = texts ["type", "scope", "subject"])
    (mergeNames : options.mergeCorrespondence = texts [])
    (revertNames : options.revertCorrespondence = texts ["header", "hash"])
    (comment : options.commentChar = .null) : g.HasUsualParts where
  header := by
    have ready := made.header
    rw [header] at ready
    exact (Except.ok.inj ready).symm
  merge := by
    have ready := made.merge
    rw [merge] at ready
    exact (Except.ok.inj ready).symm
  revert := by
    have ready := made.revert
    rw [revert] at ready
    exact (Except.ok.inj ready).symm
  headerNames := made.headerNames.trans headerNames
  revertNames := made.revertNames.trans revertNames
  comment := made.comment.trans comment
  typed :=
    ⟨⟨_, made.headerNames.trans headerNames⟩, ⟨_, made.mergeNames.trans mergeNames⟩,
      ⟨_, made.revertNames.trans revertNames⟩, .inl (made.comment.trans comment)⟩

theorem IsUsual.parts {g : Grammar} (usual : g.IsUsual) : g.HasUsualParts := by
  obtain ⟨layer, listed, ready⟩ := usual
  have made := isMadeOf_of_compile ready
  simp only [List.mem_cons, List.not_mem_nil, or_false] at listed
  rcases listed with rfl | rfl
  · exact made.hasUsualParts rfl rfl rfl rfl rfl rfl rfl
  · exact made.hasUsualParts rfl rfl rfl rfl rfl rfl rfl

structure StartsAt (text : List Char) (parts : Parts) (h : Line) (later : List Line) : Prop where
  lines : saidLines text = h :: later
  said : Text.blank h = false
  whole : ∀ x ∈ h, Text.isLineEnd x = false
  merged : parts.merged = none
  header : parts.header = h
  rest : parts.rest <+: later

theorem StartsAt.field_header {text : List Char} {parts : Parts} {h : Line} {later : List Line}
    (starts : StartsAt text parts h later) (g : Grammar) (hash : Value) :
    (parts.commit g hash).field "header" = .ofChars h := by
  rw [← starts.header]
  exact Parts.field_reserved List.mem_cons_self

theorem HasPlainLines.linesOf_eq {g : Grammar} (plain : g.HasPlainLines) (text : List Char) :
    g.linesOf text = .ok (trimLines (Text.lines text)) := by
  rw [linesOf, withoutComments, plain.comment]
  rfl

theorem FallsInto.trimLines_eq {g : Grammar} (plain : g.HasPlainLines) {text : List Char}
    {parts : Parts} (found : g.FallsInto text parts) (said : Text.blank text = false) :
    parts.merged = none ∧ trimLines (Text.lines text) = parts.header :: parts.rest := by
  obtain ⟨h, later, start, first⟩ := exists_saidLines said
  obtain ⟨kept, trimmed, _⟩ := exists_trimLines start first
  have merged : parts.merged = none := by
    have none := found.merged
    rw [plain.merge] at none
    exact (Except.ok.inj none).symm
  have lines : trimLines (Text.lines text) = parts.lines :=
    Except.ok.inj ((plain.linesOf_eq text).symm.trans found.lines)
  refine ⟨merged, ?_⟩
  rw [Parts.header, Parts.rest, merged, ← lines, trimmed]
  rfl

theorem FallsInto.startsAt {g : Grammar} (plain : g.HasPlainLines) {text : List Char}
    {parts : Parts} (found : g.FallsInto text parts) (said : Text.blank text = false) :
    ∃ h later, StartsAt text parts h later := by
  obtain ⟨h, later, start, first⟩ := exists_saidLines said
  obtain ⟨kept, trimmed, within⟩ := exists_trimLines start first
  obtain ⟨merged, lines⟩ := found.trimLines_eq plain said
  obtain ⟨header, rest⟩ := List.cons.inj (trimmed.symm.trans lines)
  have listed : h ∈ Text.lines text :=
    (List.dropWhile_sublist _).subset (start ▸ List.mem_cons_self)
  have whole := Text.isLineEnd_of_mem_linesFrom (List.forall_mem_nil _) listed
  exact ⟨h, later, start, first, whole, merged, header.symm, rest ▸ within⟩

theorem HasPlainLines.parse_said {g : Grammar} (plain : g.HasPlainLines) {message : String}
    (hash : Value) (said : Text.blank message.toList = false) :
    ∃ parts h later, g.parse message hash = .ok (parts.commit g hash) ∧
      g.FallsInto message.toList parts ∧ StartsAt message.toList parts h later := by
  obtain ⟨c, read⟩ := parse_returns plain.typed hash said
  obtain ⟨_, parts, found, rfl⟩ := parse_eq_ok.mp read
  obtain ⟨h, later, starts⟩ := found.startsAt plain said
  exact ⟨parts, h, later, read, found, starts⟩

theorem HasUsualParts.parse_said {g : Grammar} (usual : g.HasUsualParts) {message : String}
    (hash : Value) (said : Text.blank message.toList = false) :
    ∃ parts h later, g.parse message hash = .ok (parts.commit g hash) ∧
      g.FallsInto message.toList parts ∧ StartsAt message.toList parts h later :=
  usual.plainLines.parse_said hash said

end Grammar
end ReleaseAdvisor
