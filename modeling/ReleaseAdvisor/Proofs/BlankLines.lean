import ReleaseAdvisor.Proofs.RevertMessage
import ReleaseAdvisor.Proofs.Tails

/-!
Blank lines around a message. They are no part of the lines that count, so that nothing which is
read from these depends on them. Only the description of a reverted commit is read from the message
as it stands: blank lines after it make no difference to that either, but before the message they
hide it.
-/

namespace ReleaseAdvisor

open Pattern

namespace Text

/-! ### Lines -/

theorem linesFrom_cons {line cs : List Char} {c : Char} (single : c = '\r' → cs.head? ≠ some '\n') :
    linesFrom line (c :: cs) =
      if isLineEnd c then line.reverse :: linesFrom [] cs else linesFrom (c :: line) cs := by
  refine linesFrom.eq_3 _ _ _ fun rest same cut => ?_
  rw [cut] at single
  exact single same rfl

theorem head?_append_feed {c : Char} {cs : List Char}
    (single : ∀ rest, c = '\r' → cs = '\n' :: rest → False) (apart : ¬(c = '\r' ∧ cs = []))
    (rest : List Char) (same : c = '\r') : (cs ++ '\n' :: rest).head? ≠ some '\n' := by
  cases cs with
  | nil => exact absurd ⟨same, rfl⟩ apart
  | cons d cs =>
      intro feed
      have first : d = '\n' := by simpa using feed
      exact single cs same (by rw [first])

theorem ne_return {c : Char} (goes : ¬isLineEnd c = true) : c ≠ '\r' := by
  rintro rfl
  exact goes (by decide)

theorem linesFrom_append_feed (line first rest : List Char) :
    linesFrom line (first ++ '\n' :: rest) =
      linesFrom line (first ++ ['\n']) ++ lines rest := by
  induction line, first using linesFrom.induct with
  | case1 line none => rfl
  | case2 line some => rfl
  | case3 line first ih => simp only [List.cons_append, linesFrom, ih]
  | case4 line c first single ends ih =>
      by_cases pair : c = '\r' ∧ first = []
      · obtain ⟨rfl, rfl⟩ := pair
        rfl
      · have apart := head?_append_feed single pair
        rw [List.cons_append, List.cons_append, linesFrom_cons (apart rest),
          linesFrom_cons (apart []), if_pos ends, if_pos ends, ih, List.cons_append]
  | case5 line c first single goes ih =>
      have other := ne_return goes
      rw [List.cons_append, List.cons_append, linesFrom_cons (absurd · other),
        linesFrom_cons (absurd · other), if_neg goes, if_neg goes, ih]

theorem mem_of_mem_linesFrom {line cs l : List Char} {x : Char} (listed : l ∈ linesFrom line cs)
    (inside : x ∈ l) : x ∈ line ∨ x ∈ cs := by
  induction line, cs using linesFrom.induct with
  | case1 line none => simp [linesFrom, none] at listed
  | case2 line some =>
      simp only [linesFrom, some, Bool.false_eq_true, if_false, List.mem_singleton] at listed
      rw [listed] at inside
      exact .inl (List.mem_reverse.mp inside)
  | case3 line rest ih =>
      rw [linesFrom] at listed
      rcases List.mem_cons.mp listed with rfl | listed
      · exact .inl (List.mem_reverse.mp inside)
      · rcases ih listed with absent | within
        · cases absent
        · exact .inr (.tail _ (.tail _ within))
  | case4 line c rest single ends ih =>
      rw [linesFrom.eq_3 _ _ _ single, if_pos ends] at listed
      rcases List.mem_cons.mp listed with rfl | listed
      · exact .inl (List.mem_reverse.mp inside)
      · rcases ih listed with absent | within
        · cases absent
        · exact .inr (.tail _ within)
  | case5 line c rest single goes ih =>
      rw [linesFrom.eq_3 _ _ _ single, if_neg goes] at listed
      rcases ih listed with within | within
      · rcases List.mem_cons.mp within with rfl | within
        · exact .inr List.mem_cons_self
        · exact .inl within
      · exact .inr (.tail _ within)

theorem blank_of_mem_lines {cs : List Char} (empty : blank cs = true) :
    ∀ l ∈ lines cs, blank l = true := by
  intro l listed
  rw [blank, List.all_eq_true] at empty ⊢
  intro x inside
  rcases mem_of_mem_linesFrom listed inside with absent | within
  · cases absent
  · exact empty x within

theorem exists_linesFrom_append_feed {rest : List Char} (empty : blank rest = true)
    (line cs : List Char) : ∃ more, (∀ l ∈ more, blank l = true) ∧
      linesFrom line (cs ++ '\n' :: rest) = linesFrom line cs ++ more := by
  have later := blank_of_mem_lines empty
  induction line, cs using linesFrom.induct with
  | case1 line none =>
      have bare : line = [] := List.isEmpty_iff.mp none
      refine ⟨[] :: lines rest, List.forall_mem_cons.mpr ⟨rfl, later⟩, ?_⟩
      rw [bare]
      rfl
  | case2 line some =>
      refine ⟨lines rest, later, ?_⟩
      rw [linesFrom, if_neg some]
      rfl
  | case3 line cs ih =>
      obtain ⟨more, blanks, same⟩ := ih
      exact ⟨more, blanks, by simp only [List.cons_append, linesFrom, same]⟩
  | case4 line c cs single ends ih =>
      by_cases pair : c = '\r' ∧ cs = []
      · obtain ⟨rfl, rfl⟩ := pair
        exact ⟨lines rest, later, rfl⟩
      · obtain ⟨more, blanks, same⟩ := ih
        refine ⟨more, blanks, ?_⟩
        rw [List.cons_append, linesFrom_cons (head?_append_feed single pair rest), if_pos ends,
          linesFrom.eq_3 _ _ _ single, if_pos ends, same, List.cons_append]
  | case5 line c cs single goes ih =>
      obtain ⟨more, blanks, same⟩ := ih
      refine ⟨more, blanks, ?_⟩
      rw [List.cons_append, linesFrom_cons (absurd · (ne_return goes)), if_neg goes,
        linesFrom.eq_3 _ _ _ single, if_neg goes, same]

end Text

def IsBlankAbove (front : List Char) : Prop :=
  Text.blank front = true ∧ (front = [] ∨ ∃ lines, front = lines ++ ['\n'])

def IsBlankBelow (back : List Char) : Prop :=
  Text.blank back = true ∧ (back = [] ∨ ∃ lines, back = '\n' :: lines)

namespace Grammar

theorem trimLines_framed {front back : List Char} (above : IsBlankAbove front)
    (below : IsBlankBelow back) (text : List Char) :
    trimLines (Text.lines (front ++ text ++ back)) = trimLines (Text.lines text) := by
  obtain ⟨emptyAbove, front'⟩ := above
  obtain ⟨emptyBelow, back'⟩ := below
  have start : ∃ first, (∀ l ∈ first, Text.blank l = true) ∧
      Text.lines (front ++ text ++ back) = first ++ Text.lines (text ++ back) := by
    rcases front' with rfl | ⟨lines, rfl⟩
    · exact ⟨[], List.forall_mem_nil _, rfl⟩
    · refine ⟨Text.lines (lines ++ ['\n']), Text.blank_of_mem_lines emptyAbove, ?_⟩
      rw [Text.lines, Text.lines, ← Text.linesFrom_append_feed]
      simp
  have stop : ∃ last, (∀ l ∈ last, Text.blank l = true) ∧
      Text.lines (text ++ back) = Text.lines text ++ last := by
    rcases back' with rfl | ⟨lines, rfl⟩
    · exact ⟨[], List.forall_mem_nil _, by simp⟩
    · have empty : Text.blank lines = true := by
        rw [Text.blank, List.all_cons, Bool.and_eq_true] at emptyBelow
        exact emptyBelow.2
      exact Text.exists_linesFrom_append_feed empty [] text
  obtain ⟨first, before, cut⟩ := start
  obtain ⟨last, after, cut'⟩ := stop
  rw [cut, cut', ← List.append_assoc]
  exact Text.dropEnds_append _ before after

/-! ### The description of a reverted commit -/

theorem toNat_of_isBlank {c : Char} (empty : Text.isBlank c = true) :
    c.toNat ∈ [9, 10, 11, 12, 13, 28, 29, 30, 31, 32, 133, 160, 5760] ++ List.range' 8192 11 ++
      [8232, 8233, 8239, 8287, 12288] := by
  simp only [Text.isBlank, Text.inRanges] at empty
  simp only [List.mem_append, List.mem_cons, List.not_mem_nil, or_false, List.mem_range'_1]
  grind

theorem unlike_of_isBlank {x : Char} (empty : Text.isBlank x = true) :
    ∀ c ∈ ['R', 'r', '.'], Folding.full.same c.toNat x.toNat = false := by
  have each : ∀ n ∈ [9, 10, 11, 12, 13, 28, 29, 30, 31, 32, 133, 160, 5760] ++
      List.range' 8192 11 ++ [8232, 8233, 8239, 8287, 12288],
      ∀ c ∈ ['R', 'r', '.'], Folding.full.same c.toNat n = false := by
    decide +kernel
  exact each _ (toNat_of_isBlank empty)

/-- Blanks before a message hide what it says about a reverted commit. -/
theorem match?_defaultRevert_of_blank {front : List Char} (empty : Text.blank front = true)
    (some : front ≠ []) (text : List Char) : defaultRevert.match? (front ++ text) = none := by
  obtain ⟨x, front, rfl⟩ := List.exists_cons_of_ne_nil some
  rw [Text.blank, List.all_cons, Bool.and_eq_true] at empty
  have unlike := unlike_of_isBlank empty.1
  have starts : revertStart = 'R' :: "evert".toList ∧
      "revert:".toList = 'r' :: "evert:".toList := by
    decide +kernel
  by_contra matched
  obtain ⟨o, run⟩ := Regex.exists_run_of_match? (Option.isSome_iff_ne_none.mpr matched)
  rw [defaultRevert_eq.2.2, Node.run_textStart, Node.run_cons, Node.run_either, starts.1, starts.2,
    List.cons_append, Node.run_word_of_unlike (unlike 'R' (by decide)),
    Node.run_word_of_unlike (unlike 'r' (by decide))] at run
  cases run

def revertNodes : List Node :=
  .stand .textStart ::
    .either (.ofList (Node.literal .full revertStart))
      (.ofList (Node.literal .full "revert:".toList)) ::
    .one blankTest :: .many quoteTest 0 (some 1) .greedy ::
    .group 1 (.many anyTest 1 none .lazy) ::
    .many quoteTest 0 (some 1) .greedy :: .many blankTest 0 none .greedy ::
    (Node.literal .full trailerStart ++ [.group 2 (.many (wordTest .full) 0 none .greedy)])

theorem match?_defaultRevert_append {back : List Char} (empty : Text.blank back = true)
    (text : List Char) : defaultRevert.match? (text ++ back) = defaultRevert.match? text := by
  have shape : defaultRevert.body = .ofList (revertNodes ++ [.one (.point '.'.toNat .full)]) ∧
      (Node.ofList revertNodes).isPlain = true := by
    decide +kernel
  refine Regex.match?_append shape.1 shape.2 text fun x inside => ?_
  exact unlike_of_isBlank (List.all_eq_true.mp empty x inside) '.' (by decide)

end Grammar

def Commit.withoutRevert (c : Commit) : Commit :=
  { c with fields := c.fields.put (.text "revert") .null }

theorem Commit.revert_withoutRevert (c : Commit) : c.withoutRevert.revert = .null := by
  have self : (Value.text "revert").same (.text "revert") = true := Value.same_text.mpr rfl
  rw [revert, field, get, withoutRevert, Entries.get?_put, if_pos self]
  rfl

namespace Grammar

section Commits

variable (g : Grammar) (parts : Parts) (hash : Value)

theorem Parts.fields_eq_put : (parts.commit g hash).fields =
    Entries.put (.text "revert") (parts.commit g hash).revert
      (Entries.putAll [] (parts.headEntries ++ (g.contentOf parts.rest).fields ++
        (parts.reserved g).dropLast)) := by
  have split := Entries.putAll_append []
    (parts.headEntries ++ (g.contentOf parts.rest).fields ++ (parts.reserved g).dropLast)
    [(.text "revert", (parts.reverted.map Value.mapping).getD .null)]
  rw [List.append_assoc] at split
  rw [commit_revert]
  exact split

theorem Parts.commit_unreverted :
    Parts.commit g { parts with reverted := none } hash =
      (parts.commit g hash).withoutRevert := by
  rw [Commit.withoutRevert, fields_eq_put, Entries.put_put]
  have fields := fields_eq_put g { parts with reverted := none } hash
  rw [commit_revert] at fields
  exact congrArg (fun fields => Commit.mk fields hash) fields

theorem Parts.withoutRevert_eq_iff :
    (parts.commit g hash).withoutRevert = parts.commit g hash ↔
      (parts.commit g hash).revert = .null := by
  constructor
  · intro same
    rw [← same]
    exact Commit.revert_withoutRevert _
  · intro silent
    have fields := fields_eq_put g parts hash
    rw [silent] at fields
    rw [Commit.withoutRevert, fields, Entries.put_put, ← fields]

end Commits

section Framed

variable {g : Grammar} (usual : g.HasUsualParts) {text front back : List Char} {parts : Parts}
  (found : g.FallsInto text parts) (above : IsBlankAbove front) (below : IsBlankBelow back)

include usual found above below

theorem FallsInto.framed {reverted : Option Entries}
    (said : fieldsOf g.revert (front ++ text ++ back) g.revertNames = .ok reverted) :
    g.FallsInto (front ++ text ++ back) { parts with reverted := reverted } where
  lines := by
    rw [usual.plainLines.linesOf_eq, trimLines_framed above below, ← usual.plainLines.linesOf_eq]
    exact found.lines
  names := found.names
  canName := found.canName
  merged := found.merged
  headed := found.headed
  reverted := said

theorem FallsInto.framed_below (bare : front = []) :
    g.FallsInto (front ++ text ++ back) parts := by
  refine found.framed usual above below ?_
  have same : fieldsOf g.revert (text ++ back) g.revertNames =
      fieldsOf g.revert text g.revertNames := by
    rw [usual.revert, fieldsOf, fieldsOf, match?_defaultRevert_append below.1]
  rw [bare, List.nil_append, same]
  exact found.reverted

theorem FallsInto.framed_above (some : front ≠ []) :
    g.FallsInto (front ++ text ++ back) { parts with reverted := none } := by
  refine found.framed usual above below ?_
  rw [usual.revert, List.append_assoc, fieldsOf, match?_defaultRevert_of_blank above.1 some]

end Framed

/-- Blank lines around a message under the usual grammar. Those below it make no difference, and
those above it none but one: whatever the message says about a reverted commit is not seen. So a
message is read alike with blank lines above it just if it says nothing about a reverted commit. -/
theorem parse_framed {g : Grammar} (usual : g.IsUsual) {message front back : String}
    (said : Text.blank message.toList = false) (above : IsBlankAbove front.toList)
    (below : IsBlankBelow back.toList) (hash : Value) :
    ∃ c, g.parse message hash = .ok c ∧
      g.parse (front ++ message ++ back) hash =
        .ok (if front = "" then c else c.withoutRevert) ∧
      (g.parse (front ++ message ++ back) hash = g.parse message hash ↔
        front = "" ∨ c.revert = .null) := by
  have parts := usual.parts
  obtain ⟨found, _, _, read, falls, _⟩ := parts.parse_said hash said
  have whole : (front ++ message ++ back).toList =
      front.toList ++ message.toList ++ back.toList := by
    simp only [String.toList_append]
  have said' : Text.blank (front ++ message ++ back).toList = false := by
    rw [Text.blank, List.all_eq_false] at said ⊢
    obtain ⟨x, inside, other⟩ := said
    exact ⟨x, by simp [whole, inside], other⟩
  refine ⟨_, read, ?_⟩
  -- Only what stands above the message can hide the revert, which starts a text.
  by_cases bare : front = ""
  · have same : g.parse (front ++ message ++ back) hash = .ok (found.commit g hash) := by
      refine parse_eq_ok.mpr ⟨said', found, ?_, rfl⟩
      rw [whole]
      exact falls.framed_below parts above below (by rw [bare]; rfl)
    rw [same, read, if_pos bare]
    exact ⟨rfl, iff_of_true rfl (.inl bare)⟩
  · have hidden : g.parse (front ++ message ++ back) hash =
        .ok (found.commit g hash).withoutRevert := by
      rw [← Parts.commit_unreverted]
      refine parse_eq_ok.mpr ⟨said', _, ?_, rfl⟩
      rw [whole]
      refine falls.framed_above parts above below fun none => bare ?_
      exact String.toList_eq_nil_iff.mp none
    rw [hidden, read, if_neg bare]
    refine ⟨rfl, ?_⟩
    rw [Except.ok.injEq, Parts.withoutRevert_eq_iff]
    simp [bare]

end Grammar

open Sample

namespace Grammar

/-- A revert is read as such with blank lines below it, but not with blank lines above it. -/
theorem parse_framed_undoing : ∃ (g : Grammar) (c : Commit), g.IsUsual ∧
    g.parse undoing (.text "b2") = .ok c ∧ c.revert.truthy = true ∧
    g.parse ("" ++ undoing ++ "\n \n\t") (.text "b2") = .ok c ∧
    g.parse (" \n\n" ++ undoing ++ "\n") (.text "b2") = .ok c.withoutRevert := by
  have ready : ∃ g, compile (.ofLayer []) = .ok g ∧
      ∃ c, g.parse undoing (.text "b2") = .ok c ∧ c.revert.truthy = true := by
    decide +kernel
  obtain ⟨g, ready, c, read, describes⟩ := ready
  have usual : g.IsUsual := ⟨[], by simp, ready⟩
  have said : Text.blank undoing.toList = false := by decide +kernel
  obtain ⟨c', read', below, _⟩ := @parse_framed g usual undoing "" "\n \n\t" said
    ⟨rfl, .inl rfl⟩ ⟨by decide +kernel, .inr ⟨" \n\t".toList, rfl⟩⟩ (.text "b2")
  obtain ⟨c'', read'', above, _⟩ := @parse_framed g usual undoing " \n\n" "\n" said
    ⟨by decide +kernel, .inr ⟨" \n".toList, rfl⟩⟩ ⟨by decide +kernel, .inr ⟨[], rfl⟩⟩ (.text "b2")
  obtain rfl : c = c' := Except.ok.inj (read.symm.trans read')
  obtain rfl : c = c'' := Except.ok.inj (read.symm.trans read'')
  exact ⟨g, c, usual, read, describes, below, above⟩

/-- One blank line above a revert, and it describes nothing any more. -/
theorem parse_undoing_below : ∃ g, compile (.ofLayer []) = .ok g ∧
    ∃ c, g.parse undoing (.text "") = .ok c ∧ ∃ c', g.parse ("\n" ++ undoing) (.text "") = .ok c' ∧
      c.revert.truthy = true ∧ c'.revert.truthy = false := by
  decide +kernel

end Grammar
end ReleaseAdvisor
