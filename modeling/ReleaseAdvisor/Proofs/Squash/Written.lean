import Mathlib.Data.List.Forall2
import ReleaseAdvisor.Proofs.Squash.Blocks

/-!
Squash merges as version control writes them. Whatever the messages hold, reading back what was
written gives the commits that were written, under each of the line endings.
-/

namespace ReleaseAdvisor

namespace Squash

theorem head?_join {ending : List Char} (line : List Char) (rest : List (List Char)) :
    (Text.join ending (line :: rest)).head? =
      line.head?.or (if rest = [] then none
        else ending.head?.or (Text.join ending rest).head?) := by
  cases rest with
  | nil => simp [Text.join]
  | cons second later => simp [Text.join, List.head?_append]

theorem breaksInto_join {ending : List Char} (ends : ending ∈ endings) {lines : List (List Char)}
    (some : lines ≠ []) (whole : ∀ line ∈ lines, ∀ c ∈ line, isBreak c = false) :
    BreaksInto (Text.join ending lines) lines := by
  induction lines with
  | nil => exact absurd rfl some
  | cons line rest ih =>
      obtain ⟨first, later⟩ := List.forall_mem_cons.mp whole
      cases rest with
      | nil => exact .last first
      | cons second others =>
          have tail := ih (by simp) later
          rw [Text.join_cons_cons]
          refine .next first ends ?_ tail
          rintro rfl
          rw [head?_join]
          -- The next line starts with no part of an ending, or is empty and has its own return.
          cases second with
          | nil => split <;> simp
          | cons c cs =>
              have inside := later (c :: cs) List.mem_cons_self c List.mem_cons_self
              intro same
              simp only [List.head?_cons, Option.some_or, Option.some.injEq] at same
              rw [same] at inside
              cases inside

structure Entry where
  hash : List Char
  author : List Char
  date : List Char
  message : List Char
  hash_chars : ∀ c ∈ hash, ('a' ≤ c ∧ c ≤ 'f') ∨ ('0' ≤ c ∧ c ≤ '9')
  author_line : ∀ c ∈ author, isBreak c = false
  date_line : ∀ c ∈ date, isBreak c = false
  no_return : '\r' ∉ message
  stripped : Text.strip message = message

/-- A line of a message as it is written: behind the indent, or left empty if it is empty. -/
inductive Indents : List Char → List Char → Prop where
  | behind (line : List Char) : Indents line (indent ++ line)
  | empty : Indents [] []

namespace Entry

def commit (e : Entry) : RawCommit :=
  ⟨String.ofList e.message, .text (String.ofList e.hash), true⟩

/-- Lines in which an entry is written: its hash, author and date; one or more empty lines; the
lines of its message; and any number of empty lines. -/
def WrittenIn (e : Entry) (written : List (List Char)) : Prop :=
  ∃ (front back : Nat) (message indented : List (List Char)),
    0 < front ∧ Text.join ['\n'] message = e.message ∧ (∀ line ∈ message, '\n' ∉ line) ∧
    List.Forall₂ Indents message indented ∧
    written = ("commit ".toList ++ e.hash) :: ("Author: ".toList ++ e.author) ::
      ("Date: ".toList ++ e.date) ::
      (List.replicate front [] ++ indented ++ List.replicate back [])

end Entry

/-- The text is a squash merge of the entries: the known line, any number of empty lines and the
entries, with the same ending between all lines. -/
def Writes (entries : List Entry) (text : List Char) : Prop :=
  ∃ ending ∈ endings, ∃ (gap : Nat) (parts : List (List (List Char))),
    List.Forall₂ Entry.WrittenIn entries parts ∧
      text = Text.join ending (sentinel :: (List.replicate gap [] ++ parts.flatten))

theorem isBodyLine_of_indents {message indented : List (List Char)}
    (indents : List.Forall₂ Indents message indented) :
    ∀ line ∈ indented, line = [] ∨ indent <+: line := by
  induction indents with
  | nil => simp
  | cons first _ ih =>
      refine List.forall_mem_cons.mpr ⟨?_, ih⟩
      cases first with
      | behind line => exact .inr (List.prefix_append _ _)
      | empty => exact .inl rfl

theorem map_drop_of_indents {message indented : List (List Char)}
    (indents : List.Forall₂ Indents message indented) :
    indented.map (List.drop indent.length) = message := by
  induction indents with
  | nil => rfl
  | cons first _ ih =>
      rw [List.map_cons, ih]
      cases first with
      | behind line => rw [List.drop_left]
      | empty => rfl

theorem whole_of_indents {message indented : List (List Char)}
    (indents : List.Forall₂ Indents message indented)
    (whole : ∀ line ∈ message, ∀ c ∈ line, isBreak c = false) :
    ∀ line ∈ indented, ∀ c ∈ line, isBreak c = false := by
  have spaces : ∀ c ∈ indent, isBreak c = false := by decide
  induction indents with
  | nil => simp
  | cons first _ ih =>
      obtain ⟨head, later⟩ := List.forall_mem_cons.mp whole
      refine List.forall_mem_cons.mpr ⟨?_, ih later⟩
      cases first with
      | behind line => exact List.forall_mem_append.mpr ⟨spaces, head⟩
      | empty => simp

theorem isBreak_of_hashChar {c : Char} (hash : ('a' ≤ c ∧ c ≤ 'f') ∨ ('0' ≤ c ∧ c ≤ '9')) :
    isBreak c = false := by
  cases broken : isBreak c with
  | false => rfl
  | true =>
      rw [isBreak, Bool.or_eq_true, beq_iff_eq, beq_iff_eq] at broken
      rcases broken with rfl | rfl <;> revert hash <;> decide

namespace Entry

theorem WrittenIn.block {e : Entry} {written : List (List Char)} (lines : e.WrittenIn written) :
    ∃ block : Block, block.lines = written ∧ block.commit = e.commit ∧
      ∀ line ∈ written, ∀ c ∈ line, isBreak c = false := by
  obtain ⟨front, back, message, indented, _, joined, unbroken, indents, rfl⟩ := lines
  have body : ∀ line ∈ List.replicate front [] ++ indented ++ List.replicate back [],
      line = [] ∨ indent <+: line := by
    intro line listed
    simp only [List.mem_append, List.mem_replicate] at listed
    rcases listed with (⟨_, rfl⟩ | listed) | ⟨_, rfl⟩
    · exact .inl rfl
    · exact isBodyLine_of_indents indents line listed
    · exact .inl rfl
  refine ⟨⟨e.hash, e.author, e.date, _, e.hash_chars, body⟩, rfl, ?_, ?_⟩
  · obtain ⟨before, first⟩ := Text.join_replicate_append front (message ++ List.replicate back [])
    obtain ⟨after, second⟩ := Text.join_append_replicate message back
    -- Without the indent the body is the message between empty lines, which are stripped.
    have text : Text.strip (Text.join ['\n'] ((List.replicate front [] ++ indented ++
        List.replicate back []).map (List.drop indent.length))) = e.message := by
      calc
        _ = Text.strip (Text.join ['\n']
              (List.replicate front [] ++ (message ++ List.replicate back []))) := by
          simp [map_drop_of_indents indents]
        _ = Text.strip (List.replicate before '\n' ++ e.message ++ List.replicate after '\n') := by
          rw [first, second, joined, List.append_assoc]
        _ = e.message := by
          rw [Text.strip_append _ (Text.blank_replicate _) (Text.blank_replicate _), e.stripped]
    rw [Block.commit, text, commit]
  · have whole : ∀ line ∈ message, ∀ c ∈ line, isBreak c = false := by
      intro line listed c inside
      have other : c ≠ '\r' := by
        rintro rfl
        exact e.no_return (joined ▸ Text.mem_join listed _ inside)
      have unlike : c ≠ '\n' := by
        rintro rfl
        exact unbroken line listed inside
      simp [isBreak, other, unlike]
    have hash : ∀ c ∈ e.hash, isBreak c = false :=
      fun c inside => isBreak_of_hashChar (e.hash_chars c inside)
    have empty : ∀ n, ∀ line ∈ List.replicate n ([] : List Char), ∀ c ∈ line,
        isBreak c = false := by
      intro n line listed c inside
      rw [List.eq_of_mem_replicate listed] at inside
      cases inside
    simp only [List.forall_mem_cons, List.forall_mem_append]
    exact ⟨⟨by decide, hash⟩, ⟨by decide, e.author_line⟩, ⟨by decide, e.date_line⟩,
      ⟨empty front, whole_of_indents indents whole⟩, empty back⟩

end Entry

theorem blocks_of_written {entries : List Entry} {parts : List (List (List Char))}
    (written : List.Forall₂ Entry.WrittenIn entries parts) :
    ∃ blocks : List Block, blocks.flatMap Block.lines = parts.flatten ∧
      blocks.map Block.commit = entries.map Entry.commit ∧
      ∀ line ∈ parts.flatten, ∀ c ∈ line, isBreak c = false := by
  induction written with
  | nil => exact ⟨[], rfl, rfl, by simp⟩
  | cons first _ ih =>
      obtain ⟨block, lines, commit, whole⟩ := first.block
      obtain ⟨blocks, rest, commits, later⟩ := ih
      refine ⟨block :: blocks, ?_, ?_, ?_⟩
      · rw [List.flatMap_cons, List.flatten_cons, lines, rest]
      · rw [List.map_cons, List.map_cons, commit, commits]
      · rw [List.flatten_cons]
        exact List.forall_mem_append.mpr ⟨whole, later⟩

theorem isSquash_of_writes {entries : List Entry} {text : List Char}
    (written : Writes entries text) :
    ∃ blocks, IsSquash text blocks ∧ blocks.map Block.commit = entries.map Entry.commit := by
  obtain ⟨ending, ends, gap, parts, parted, rfl⟩ := written
  obtain ⟨blocks, lines, commits, whole⟩ := blocks_of_written parted
  refine ⟨blocks, ⟨gap, ?_⟩, commits⟩
  rw [lines]
  refine breaksInto_join ends (by simp) ?_
  simp only [List.forall_mem_cons, List.forall_mem_append, List.mem_replicate]
  refine ⟨by decide, ?_, whole⟩
  rintro line ⟨_, rfl⟩ c inside
  cases inside

/-- Splitting reads back what was written: one commit for each entry, in order, with its hash and
its message. -/
theorem split_of_writes {entries : List Entry} (some : entries ≠ []) {c : RawCommit}
    (written : Writes entries c.message.toList) : split c = entries.map Entry.commit := by
  obtain ⟨blocks, listed, commits⟩ := isSquash_of_writes written
  have given : blocks ≠ [] := by
    rintro rfl
    exact some (List.map_eq_nil_iff.mp commits.symm)
  rw [split_of_isSquash given listed, commits]

def lookalike : Entry where
  hash := "5f1e2d3c".toList
  author := "Jane".toList
  date := "today".toList
  message := "commit abc\n\n  Author: none".toList
  hash_chars := by decide
  author_line := by decide
  date_line := by decide
  no_return := by decide
  stripped := by decide

def wordless : Entry where
  hash := []
  author := []
  date := []
  message := []
  hash_chars := by simp
  author_line := by simp
  date_line := by simp
  no_return := by simp
  stripped := rfl

def lookalikeLines : List (List Char) :=
  ["Squashed commit of the following:", "", "commit 5f1e2d3c", "Author: Jane", "Date: today", "",
    "    commit abc", "", "      Author: none", "", "commit ", "Author: ", "Date: ", "", "    "].map
    String.toList

theorem split_of_writes_lookalike :
    [lookalike, wordless] ≠ [] ∧
      Writes [lookalike, wordless] (Text.join ['\r', '\n'] lookalikeLines) ∧
      split ⟨String.ofList (Text.join ['\r', '\n'] lookalikeLines), .text "a1", false⟩ =
        [⟨"commit abc\n\n  Author: none", .text "5f1e2d3c", true⟩, ⟨"", .text "", true⟩] := by
  have first : lookalike.WrittenIn (["commit 5f1e2d3c", "Author: Jane", "Date: today", "",
      "    commit abc", "", "      Author: none", ""].map String.toList) :=
    ⟨1, 1, ["commit abc", "", "  Author: none"].map String.toList,
      ["    commit abc", "", "      Author: none"].map String.toList, by decide, by decide,
      by decide, .cons (.behind _) (.cons .empty (.cons (.behind _) .nil)), by decide⟩
  have second : wordless.WrittenIn (["commit ", "Author: ", "Date: ", "", "    "].map
      String.toList) :=
    ⟨1, 0, [[]], ["    ".toList], by decide, rfl, by decide, .cons (.behind []) .nil, by decide⟩
  have some : [lookalike, wordless] ≠ [] := by simp
  have written : Writes [lookalike, wordless] (Text.join ['\r', '\n'] lookalikeLines) :=
    ⟨['\r', '\n'], by decide, 1, _, .cons first (.cons second .nil), rfl⟩
  refine ⟨some, written, split_of_writes some ?_⟩
  rw [String.toList_ofList]
  exact written

end Squash
end ReleaseAdvisor
