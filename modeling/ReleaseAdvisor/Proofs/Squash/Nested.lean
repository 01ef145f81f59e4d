import Mathlib.Logic.Function.Iterate
import ReleaseAdvisor.Proofs.Squash.Blocks

/-!
Squash merges inside squash merges. What a squash merge holds may be one again, and is then split
only by the next splitting; but every splitting makes messages shorter, so that in the end none is
left to split.
-/

namespace ReleaseAdvisor

open Outcome

theorem flatMap_eq_self_iff {α : Type} {f : α → List α} (some : ∀ item, f item ≠ [])
    {items : List α} : items.flatMap f = items ↔ ∀ item ∈ items, f item = [item] := by
  have grows : ∀ items : List α, items.length ≤ (items.flatMap f).length := by
    intro items
    induction items with
    | nil => exact Nat.le_refl _
    | cons item items ih =>
        have filled := List.length_pos_iff.mpr (some item)
        rw [List.flatMap_cons, List.length_append, List.length_cons]
        omega
  induction items with
  | nil => simp
  | cons item items ih =>
      rw [List.flatMap_cons, List.forall_mem_cons]
      constructor
      · intro same
        obtain ⟨first, more, parts⟩ := List.exists_cons_of_ne_nil (some item)
        rw [parts, List.cons_append, List.cons.injEq] at same
        obtain ⟨rfl, rest⟩ := same
        have lengths := congrArg List.length rest
        rw [List.length_append] at lengths
        have none : more = [] := by
          have bound := grows items
          exact List.eq_nil_of_length_eq_zero (by omega)
        rw [none, List.nil_append] at rest
        exact ⟨none ▸ parts, ih.mp rest⟩
      · rintro ⟨alone, rest⟩
        rw [alone, ih.mpr rest]
        rfl

namespace Squash

def weight : List (List Char) → Nat
  | [] => 0
  | line :: lines => line.length + 1 + weight lines

theorem weight_cons (line : List Char) (lines : List (List Char)) :
    weight (line :: lines) = line.length + 1 + weight lines := rfl

theorem weight_append (first second : List (List Char)) :
    weight (first ++ second) = weight first + weight second := by
  induction first with
  | nil => exact (Nat.zero_add _).symm
  | cons line lines ih =>
      rw [List.cons_append, weight_cons, weight_cons, ih]
      exact (Nat.add_assoc _ _ _).symm

theorem weight_map_drop (n : Nat) (lines : List (List Char)) :
    weight (lines.map (List.drop n)) ≤ weight lines := by
  induction lines with
  | nil => exact Nat.le_refl _
  | cons line lines ih =>
      rw [List.map_cons, weight_cons, weight_cons, List.length_drop]
      omega

theorem weight_le_of_breaksInto {text : List Char} {found : List (List Char)}
    (breaks : BreaksInto text found) : weight found ≤ text.length + 1 := by
  induction breaks with
  | last whole => simp [weight]
  | @next line ending rest later _ ends _ _ ih =>
      have filled : 0 < ending.length := by
        simp only [endings, List.mem_cons, List.not_mem_nil, or_false] at ends
        rcases ends with rfl | rfl | rfl <;> decide
      rw [weight_cons, List.length_append, List.length_append]
      omega

theorem length_join_le (lines : List (List Char)) :
    (Text.join ['\n'] lines).length ≤ weight lines := by
  fun_induction Text.join ['\n'] lines with
  | case1 => exact Nat.zero_le _
  | case2 line => simp [weight]
  | case3 line lines _ ih =>
      rw [weight_cons, List.length_append, List.length_append, List.length_singleton]
      omega

theorem length_strip_le (cs : List Char) : (Text.strip cs).length ≤ cs.length := by
  have front := (List.dropWhile_suffix (l := cs) Text.isBlank).length_le
  have back := (List.dropWhile_suffix (l := (cs.dropWhile Text.isBlank).reverse)
    Text.isBlank).length_le
  rw [List.length_reverse] at back
  rw [Text.strip, Text.trimChars, List.length_reverse]
  omega

theorem Block.length_message_le (block : Block) :
    block.commit.message.length ≤ weight block.body := by
  calc
    block.commit.message.length
        = (Text.strip (Text.join ['\n'] (block.body.map (List.drop indent.length)))).length :=
      String.length_ofList
    _ ≤ (Text.join ['\n'] (block.body.map (List.drop indent.length))).length := length_strip_le _
    _ ≤ weight (block.body.map (List.drop indent.length)) := length_join_le _
    _ ≤ weight block.body := weight_map_drop _ _

theorem IsSquash.length_lt {text : List Char} {written : List Block}
    (listed : IsSquash text written)
    {block : Block} (member : block ∈ written) : block.commit.message.length < text.length := by
  obtain ⟨gap, breaks⟩ := listed
  obtain ⟨before, after, rfl⟩ := List.append_of_mem member
  have total := weight_le_of_breaksInto breaks
  have own := block.length_message_le
  have first : sentinel.length = 33 := by decide
  simp only [List.flatMap_append, List.flatMap_cons, Block.lines, List.cons_append, weight_cons,
    weight_append] at total
  omega

end Squash

namespace RawCommit

def IsMerge (c : RawCommit) : Prop :=
  ∃ written, written ≠ [] ∧ Squash.IsSquash c.message.toList written

end RawCommit

namespace Squash

theorem split_ne_nil (c : RawCommit) : split c ≠ [] := by
  unfold split
  split
  · rename_i found
    obtain ⟨written, some, _, rfl⟩ := isSquash_of_outcome found
    exact fun none => some (List.map_eq_nil_iff.mp none)
  · simp

theorem split_of_not_isMerge {c : RawCommit} (single : ¬c.IsMerge) : split c = [c] := by
  unfold split
  split
  · rename_i found
    obtain ⟨written, some, listed, _⟩ := isSquash_of_outcome found
    exact absurd ⟨written, some, listed⟩ single
  · rfl

theorem length_lt_of_isMerge {c : RawCommit} (merge : c.IsMerge) :
    ∀ part ∈ split c, part.message.length < c.message.length := by
  obtain ⟨written, some, listed⟩ := merge
  rw [split_of_isSquash some listed, List.forall_mem_map]
  intro block member
  have shorter := listed.length_lt member
  rwa [String.length_toList] at shorter

theorem split_eq_self_iff (c : RawCommit) : split c = [c] ↔ ¬c.IsMerge := by
  constructor
  · intro alone merge
    have shorter := length_lt_of_isMerge merge c (by simp [alone])
    exact Nat.lt_irrefl _ shorter
  · exact split_of_not_isMerge

theorem splitAll_eq_self_iff (commits : List RawCommit) :
    splitAll commits = commits ↔ ∀ c ∈ commits, ¬c.IsMerge := by
  rw [splitAll, flatMap_eq_self_iff split_ne_nil]
  simp only [split_eq_self_iff]

theorem splitAll_shortens {commits : List RawCommit} {n : Nat}
    (bound : ∀ c ∈ commits, c.IsMerge → c.message.length ≤ n + 1) :
    ∀ c ∈ splitAll commits, c.IsMerge → c.message.length ≤ n := by
  intro part listed merge
  obtain ⟨c, member, listed⟩ := List.mem_flatMap.mp listed
  cases Classical.em c.IsMerge with
  | inl held =>
      have shorter := length_lt_of_isMerge held part listed
      have longest := bound c member held
      omega
  | inr single =>
      rw [split_of_not_isMerge single, List.mem_singleton] at listed
      exact absurd (listed ▸ merge) single

theorem splitAll_settles {commits : List RawCommit} {n : Nat}
    (bound : ∀ c ∈ commits, c.IsMerge → c.message.length ≤ n) :
    splitAll (splitAll^[n] commits) = splitAll^[n] commits := by
  -- After each round the squash merges that are left have shorter messages.
  induction n generalizing commits with
  | zero =>
      rw [Function.iterate_zero, id, splitAll_eq_self_iff]
      intro c listed merge
      obtain ⟨part, others, parts⟩ := List.exists_cons_of_ne_nil (split_ne_nil c)
      have shorter := length_lt_of_isMerge merge part (parts ▸ List.mem_cons_self)
      have empty := bound c listed merge
      omega
  | succ n ih =>
      rw [Function.iterate_succ_apply]
      exact ih (splitAll_shortens bound)

theorem splitAll_splitAll_eq_iff (commits : List RawCommit) :
    splitAll (splitAll commits) = splitAll commits ↔
      ∀ c ∈ commits, ∀ written, IsSquash c.message.toList written →
        ∀ block ∈ written, ¬block.commit.IsMerge := by
  rw [splitAll_eq_self_iff]
  constructor
  · intro settled c listed written squash block member
    have some := List.ne_nil_of_mem member
    apply settled
    refine List.mem_flatMap.mpr ⟨c, listed, ?_⟩
    rw [split_of_isSquash some squash]
    exact List.mem_map_of_mem member
  · intro flat part listed
    obtain ⟨c, member, listed⟩ := List.mem_flatMap.mp listed
    cases Classical.em c.IsMerge with
    | inl merge =>
        obtain ⟨written, some, squash⟩ := merge
        rw [split_of_isSquash some squash] at listed
        obtain ⟨block, inside, rfl⟩ := List.mem_map.mp listed
        exact flat c member written squash block inside
    | inr single =>
        rw [split_of_not_isMerge single, List.mem_singleton] at listed
        exact listed ▸ single

/-- A second splitting changes nothing just if no squash merge of the list holds another one. In any
case splitting again and again comes to an end, no later than after as many rounds as the longest
message has characters. -/
theorem splitAll_twice (commits : List RawCommit) :
    (splitAll (splitAll commits) = splitAll commits ↔
      ∀ c ∈ commits, ∀ written, IsSquash c.message.toList written →
        ∀ block ∈ written, ¬block.commit.IsMerge) ∧
    ∀ n, (∀ c ∈ commits, c.message.length ≤ n) →
      splitAll (splitAll^[n] commits) = splitAll^[n] commits :=
  ⟨splitAll_splitAll_eq_iff commits, fun _ bound =>
    splitAll_settles fun c listed _ => bound c listed⟩

def innerBlock : Block where
  hash := "b2".toList
  author := "B".toList
  date := "E".toList
  body := [[], "    fix: x".toList]
  hash_chars := by decide
  body_lines := by decide

def outerBlock : Block where
  hash := "a1".toList
  author := "A".toList
  date := "D".toList
  body := [] :: (sentinel :: [] :: innerBlock.lines).map (indent ++ ·)
  hash_chars := by decide
  body_lines := by decide

def nestedMerge : RawCommit where
  message := String.ofList (Text.join ['\n'] (sentinel :: [] :: outerBlock.lines))

/-- The second splitting goes on where the first one stopped. -/
theorem splitAll_nestedMerge : splitAll (splitAll [nestedMerge]) ≠ splitAll [nestedMerge] := by
  have outer : IsSquash nestedMerge.message.toList [outerBlock] := by
    refine ⟨1, breaksInto_iff.mpr ?_⟩
    rw [nestedMerge, String.toList_ofList]
    decide +kernel
  have inner : outerBlock.commit.IsMerge := by
    refine ⟨[innerBlock], by simp, 1, breaksInto_iff.mpr ?_⟩
    rw [Block.commit, String.toList_ofList]
    decide +kernel
  rw [ne_eq, splitAll_splitAll_eq_iff]
  intro flat
  exact flat nestedMerge (by simp) [outerBlock] outer outerBlock (by simp) inner

end Squash
end ReleaseAdvisor
