import Mathlib.Data.List.TakeWhile
import ReleaseAdvisor.Proofs.Outcome
import ReleaseAdvisor.Proofs.Squash.Lines

/-!
Which messages are squash merges. A message is split exactly if it lists blocks after the known
line and some empty lines; its commits are then those of the blocks, in order.
-/

namespace ReleaseAdvisor

open Outcome

namespace Squash

structure Block where
  hash : List Char
  author : List Char
  date : List Char
  body : List (List Char)
  hash_chars : ∀ c ∈ hash, ('a' ≤ c ∧ c ≤ 'f') ∨ ('0' ≤ c ∧ c ≤ '9')
  body_lines : ∀ line ∈ body, line = [] ∨ indent <+: line

namespace Block

def lines (block : Block) : List (List Char) :=
  ("commit ".toList ++ block.hash) :: ("Author: ".toList ++ block.author) ::
    ("Date: ".toList ++ block.date) :: block.body

def commit (block : Block) : RawCommit where
  message := String.ofList
    (Text.strip (Text.join ['\n'] (block.body.map fun line => line.drop indent.length)))
  hash := .text (String.ofList block.hash)
  squash := true

end Block

theorem isHashChar_iff (c : Char) :
    isHashChar c = true ↔ ('a' ≤ c ∧ c ≤ 'f') ∨ ('0' ≤ c ∧ c ≤ '9') := by
  simp only [isHashChar, Char.isDigit, Bool.or_eq_true, Bool.and_eq_true, decide_eq_true_eq]
  exact Iff.rfl

theorem hashLine?_eq_some {line hash : List Char} :
    hashLine? line = some hash ↔ line = "commit ".toList ++ hash ∧
      ∀ c ∈ hash, ('a' ≤ c ∧ c ≤ 'f') ∨ ('0' ≤ c ∧ c ≤ '9') := by
  rw [hashLine?, Option.filter_eq_some_iff, Text.after?_eq_some, List.all_eq_true]
  simp only [isHashChar_iff]

theorem isBodyLine_iff (line : List Char) :
    isBodyLine line = true ↔ line = [] ∨ indent <+: line := by
  rw [isBodyLine, Bool.or_eq_true, List.isEmpty_iff, List.isPrefixOf_iff_prefix]

theorem isBodyLine_of_hashLine (hash : List Char) :
    isBodyLine ("commit ".toList ++ hash) = false := rfl

def Ends (lines : List (List Char)) : Prop := ∀ line ∈ lines.head?, isBodyLine line = false

theorem ends_blocks (blocks : List Block) : Ends (blocks.flatMap Block.lines) := by
  intro line first
  cases blocks with
  | nil => cases first
  | cons block blocks =>
      cases first
      exact isBodyLine_of_hashLine block.hash

theorem gap_eq_zero_of_ends {gap : Nat} {lines : List (List Char)}
    (ends : Ends (List.replicate gap [] ++ lines)) : gap = 0 := by
  cases gap with
  | zero => rfl
  | succ gap =>
      have empty := ends [] (by simp [List.replicate_succ])
      cases empty

theorem takeWhile_body (block : Block) (rest : List (List Char)) (ends : Ends rest) :
    (block.body ++ rest).takeWhile isBodyLine = block.body ∧
      (block.body ++ rest).dropWhile isBodyLine = rest := by
  have inside : ∀ line ∈ block.body, isBodyLine line = true :=
    fun line member => (isBodyLine_iff line).mpr (block.body_lines line member)
  rw [List.takeWhile_append_of_pos inside, List.dropWhile_append_of_pos inside]
  cases rest with
  | nil => simp
  | cons line rest =>
      have outside : isBodyLine line = false := ends line rfl
      simp [outside]

theorem nextBlock_gap (number gap : Nat) (lines : List (List Char)) :
    nextBlock number (List.replicate gap [] ++ lines) = nextBlock (number + gap) lines := by
  induction gap generalizing number with
  | zero => rfl
  | succ gap ih =>
      rw [List.replicate_succ, List.cons_append, nextBlock, ih (number + 1)]
      congr 1
      omega

theorem nextBlock_block (number : Nat) (block : Block) (rest : List (List Char))
    (ends : Ends rest) :
    nextBlock number (block.lines ++ rest) =
      .ok (some (block.commit, number + 3 + block.body.length, rest)) := by
  have hash := hashLine?_eq_some.mpr ⟨rfl, block.hash_chars⟩
  have author : isAuthorLine ("Author: ".toList ++ block.author) = true := rfl
  have date : isDateLine ("Date: ".toList ++ block.date) = true := rfl
  obtain ⟨body, after⟩ := takeWhile_body block rest ends
  simp only [Block.lines, List.cons_append]
  rw [nextBlock]
  · simp only [hash, author, date, body, after]
    rfl
  · intro empty
    cases empty

theorem nextBlock_none {number : Nat} {lines : List (List Char)}
    (found : nextBlock number lines = .ok none) : ∃ gap, lines = List.replicate gap [] := by
  fun_induction nextBlock number lines with
  | case1 => exact ⟨0, rfl⟩
  | case2 number rest ih =>
      obtain ⟨gap, same⟩ := ih found
      exact ⟨gap + 1, by rw [same, List.replicate_succ]⟩
  | case3 => cases found
  | case4 => cases found
  | case5 => cases found
  | case6 => cases found

theorem ends_dropWhile (lines : List (List Char)) : Ends (lines.dropWhile isBodyLine) := by
  intro line first
  have outside := List.head?_dropWhile_not isBodyLine lines
  rw [Option.mem_def.mp first] at outside
  exact outside

theorem nextBlock_some {number next : Nat} {lines rest : List (List Char)} {commit : RawCommit}
    (found : nextBlock number lines = .ok (some (commit, next, rest))) :
    ∃ (gap : Nat) (block : Block), lines = List.replicate gap [] ++ (block.lines ++ rest) ∧
      commit = block.commit ∧ Ends rest := by
  fun_induction nextBlock number lines with
  | case1 => cases found
  | case2 number rest ih =>
      obtain ⟨gap, block, same, read⟩ := ih found
      exact ⟨gap + 1, block, by rw [same, List.replicate_succ, List.cons_append], read⟩
  | case3 number first author date later _ hash headed marked =>
      cases found
      obtain ⟨split, chars⟩ := hashLine?_eq_some.mp headed
      obtain ⟨named, dated⟩ := Bool.and_eq_true_iff.mp marked
      obtain ⟨name, rfl⟩ := List.isPrefixOf_iff_prefix.mp named
      obtain ⟨day, rfl⟩ := List.isPrefixOf_iff_prefix.mp dated
      have inside : ∀ line ∈ later.takeWhile isBodyLine, line = [] ∨ indent <+: line :=
        fun line member => (isBodyLine_iff line).mp (List.mem_takeWhile_imp member)
      refine ⟨0, ⟨hash, name, day, later.takeWhile isBodyLine, chars, inside⟩, ?_, rfl,
        ends_dropWhile later⟩
      simp [Block.lines, split]
  | case4 => cases found
  | case5 => cases found
  | case6 => cases found

theorem blocks_eq (number : Nat) (lines : List (List Char)) :
    blocks number lines = nextBlock number lines >>= fun
      | none => .ok []
      | some (commit, next, rest) => (blocks next rest).map (commit :: ·) := by
  rw [blocks]
  split
  · rename_i found
    rw [found]
    rfl
  · rename_i found
    rw [found]
    rfl
  · rename_i found
    rw [found]
    rfl

theorem blocks_gap (number gap : Nat) (lines : List (List Char)) :
    blocks number (List.replicate gap [] ++ lines) = blocks (number + gap) lines := by
  rw [blocks_eq, nextBlock_gap, ← blocks_eq]

theorem blocks_of_blocks (number : Nat) (written : List Block) :
    blocks number (written.flatMap Block.lines) = .ok (written.map Block.commit) := by
  induction written generalizing number with
  | nil =>
      rw [blocks_eq]
      rfl
  | cons block written ih =>
      rw [blocks_eq, List.flatMap_cons, nextBlock_block number block _ (ends_blocks written)]
      simp only [bind, Except.bind, ih]
      rfl

theorem blocks_eq_ok {number : Nat} {lines : List (List Char)} {commits : List RawCommit}
    (read : blocks number lines = .ok commits) :
    ∃ (gap : Nat) (written : List Block),
      lines = List.replicate gap [] ++ written.flatMap Block.lines ∧
        commits = written.map Block.commit := by
  induction number, lines using blocks.induct generalizing commits with
  | case1 number lines flaw found =>
      rw [blocks_eq, found] at read
      cases read
  | case2 number lines found =>
      rw [blocks_eq, found] at read
      cases read
      obtain ⟨gap, same⟩ := nextBlock_none found
      exact ⟨gap, [], by simp [same], rfl⟩
  | case3 number lines commit next rest found ih =>
      rw [blocks_eq, found] at read
      obtain ⟨later, remaining, rfl⟩ := map_eq_ok.mp read
      obtain ⟨gap, block, split, rfl, ends⟩ := nextBlock_some found
      obtain ⟨none, written, same, rfl⟩ := ih remaining
      -- The body before has taken all empty lines, so the next block follows at once.
      have zero : none = 0 := gap_eq_zero_of_ends (same ▸ ends)
      subst zero
      exact ⟨gap, block :: written, by rw [split, same]; rfl, rfl⟩

def IsSquash (text : List Char) (written : List Block) : Prop :=
  ∃ gap, BreaksInto text (sentinel :: (List.replicate gap [] ++ written.flatMap Block.lines))

/-- What a commit is split into: the commits of the blocks that its message lists, or itself alone
if it lists none. -/
inductive SplitsInto (c : RawCommit) : List RawCommit → Prop where
  | blocks {written : List Block} (some : written ≠ [])
      (listed : IsSquash c.message.toList written) : SplitsInto c (written.map Block.commit)
  | alone (unlisted : ∀ written, written ≠ [] → ¬ IsSquash c.message.toList written) :
      SplitsInto c [c]

theorem outcome_of_isSquash {text : List Char} {written : List Block} (some : written ≠ [])
    (listed : IsSquash text written) : outcome text = .commits (written.map Block.commit) := by
  obtain ⟨gap, broken⟩ := listed
  rw [outcome, lines_of_breaksInto broken]
  simp only [bne_self_eq_false, Bool.false_eq_true, if_false, blocks_gap, blocks_of_blocks]
  cases written with
  | nil => exact absurd rfl some
  | cons block written => rfl

theorem isSquash_of_outcome {text : List Char} {commits : List RawCommit}
    (found : outcome text = .commits commits) :
    ∃ written, written ≠ [] ∧ IsSquash text written ∧ commits = written.map Block.commit := by
  unfold outcome at found
  split at found
  · cases found
  · rename_i first rest broken
    split at found
    · cases found
    · rename_i headed
      have sentinel_first : first = sentinel := by simpa using headed
      split at found
      · cases found
      · cases found
      · rename_i read nonempty parts
        cases found
        obtain ⟨gap, written, same, rfl⟩ := blocks_eq_ok parts
        refine ⟨written, ?_, ⟨gap, breaksInto_iff.mpr ?_⟩, rfl⟩
        · rintro rfl
          exact nonempty rfl
        · rw [broken, sentinel_first, same]

theorem split_of_isSquash {c : RawCommit} {written : List Block} (some : written ≠ [])
    (listed : IsSquash c.message.toList written) : split c = written.map Block.commit := by
  rw [split, outcome_of_isSquash some listed]

/-- A commit splits in exactly one way, which is the one found: into the commits of its blocks if
its message is the known line, some empty lines and at least one block, and else not at all. Every
block read leaves fewer lines to read, so the reading ends. -/
theorem splitsInto_iff (c : RawCommit) (commits : List RawCommit) :
    (SplitsInto c commits ↔ split c = commits) ∧
      ∀ number lines commit next rest,
        nextBlock number lines = .ok (some (commit, next, rest)) → rest.length < lines.length := by
  refine ⟨⟨?_, ?_⟩, fun _ _ _ _ _ found => nextBlock_shortens found⟩
  · intro splits
    cases splits with
    | blocks some listed => rw [split, outcome_of_isSquash some listed]
    | alone unlisted =>
        unfold split
        split
        · rename_i found
          obtain ⟨written, some, listed, _⟩ := isSquash_of_outcome found
          exact absurd listed (unlisted written some)
        · rfl
  · rintro rfl
    unfold split
    split
    · rename_i found
      obtain ⟨written, some, listed, rfl⟩ := isSquash_of_outcome found
      exact .blocks some listed
    · rename_i other
      refine .alone fun written some listed => ?_
      exact other _ (outcome_of_isSquash some listed)

end Squash
end ReleaseAdvisor
