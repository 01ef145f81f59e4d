import Mathlib.Data.List.Basic
import Mathlib.Data.List.TakeWhile
import ReleaseAdvisor.Text.Class

/-!
Texts taken apart and put together: what follows a given start, what is left without the characters
of a class at the two ends, and the parts between separators.
-/

namespace ReleaseAdvisor.Text

/-- What holds of every character of a text is decided on these alone, and not on all characters
that there are. -/
instance (priority := 2000) decidableForallChar (text : List Char) (p : Char → Prop)
    [DecidablePred p] : Decidable (∀ c ∈ text, p c) :=
  List.decidableBAll p text

theorem after?_eq_some {start text rest : List Char} :
    after? start text = some rest ↔ text = start ++ rest := by
  induction start generalizing text with
  | nil =>
      rw [after?, Option.some.injEq]
      rfl
  | cons w start ih =>
      cases text with
      | nil => simp [after?]
      | cons c text =>
          rw [after?]
          by_cases same : w = c
          · simp [same, ih]
          · simp [same, Ne.symm same]

/-! ### Ends -/

theorem dropEnds_append {α : Type} {drop : α → Bool} {front back : List α} (items : List α)
    (before : ∀ x ∈ front, drop x = true) (after : ∀ x ∈ back, drop x = true) :
    (((front ++ items ++ back).dropWhile drop).reverse.dropWhile drop).reverse =
      ((items.dropWhile drop).reverse.dropWhile drop).reverse := by
  have behind : ∀ x ∈ back.reverse, drop x = true :=
    fun x member => after x (List.mem_reverse.mp member)
  rw [List.append_assoc, List.dropWhile_append_of_pos before, List.dropWhile_append]
  split
  · rename_i none
    rw [List.isEmpty_iff] at none
    have gone : back.dropWhile drop = [] := List.dropWhile_eq_nil_iff.mpr after
    rw [gone, none]
  · rw [List.reverse_append, List.dropWhile_append_of_pos behind]

section Trim

variable {drop : Char → Bool}

theorem trimChars_append {front back : List Char} (cs : List Char)
    (before : ∀ c ∈ front, drop c = true) (after : ∀ c ∈ back, drop c = true) :
    trimChars drop (front ++ cs ++ back) = trimChars drop cs :=
  dropEnds_append cs before after

theorem dropWhile_eq_self {cs : List Char} (first : ∀ c ∈ cs.head?, drop c = false) :
    cs.dropWhile drop = cs := by
  cases cs with
  | nil => rfl
  | cons c cs => rw [List.dropWhile_cons_of_neg (by simp [first c rfl])]

theorem trimChars_eq_self {cs : List Char} (first : ∀ c ∈ cs.head?, drop c = false)
    (last : ∀ c ∈ cs.getLast?, drop c = false) : trimChars drop cs = cs := by
  rw [trimChars, dropWhile_eq_self first, dropWhile_eq_self, List.reverse_reverse]
  rwa [List.head?_reverse]

theorem exists_trimChars (drop : Char → Bool) (cs : List Char) :
    ∃ front back, cs = front ++ trimChars drop cs ++ back ∧ (∀ c ∈ front, drop c = true) ∧
      (∀ c ∈ back, drop c = true) ∧ (∀ c ∈ (trimChars drop cs).head?, drop c = false) ∧
      ∀ c ∈ (trimChars drop cs).getLast?, drop c = false := by
  have starts (text : List Char) : ∀ c ∈ (text.dropWhile drop).head?, drop c = false := by
    intro c first
    have rule := List.head?_dropWhile_not drop text
    rw [Option.mem_def.mp first] at rule
    exact rule
  have dropped (text : List Char) : ∀ c ∈ text.takeWhile drop, drop c = true :=
    List.all_eq_true.mp List.all_takeWhile
  generalize cut : cs.dropWhile drop = inner
  have whole : inner = trimChars drop cs ++ (inner.reverse.takeWhile drop).reverse := by
    rw [trimChars, cut, ← List.reverse_append, List.takeWhile_append_dropWhile,
      List.reverse_reverse]
  refine ⟨cs.takeWhile drop, (inner.reverse.takeWhile drop).reverse, ?_, dropped cs, ?_, ?_, ?_⟩
  · rw [List.append_assoc, ← whole, ← cut, List.takeWhile_append_dropWhile]
  · exact fun c member => dropped _ c (List.mem_reverse.mp member)
  · intro c first
    refine starts cs c ?_
    rw [cut, whole, List.head?_append, Option.mem_def.mp first]
    rfl
  · intro c last
    rw [trimChars, List.getLast?_reverse] at last
    exact starts _ c last

end Trim

theorem strip_append {front back : List Char} (cs : List Char) (before : blank front = true)
    (after : blank back = true) : strip (front ++ cs ++ back) = strip cs :=
  trimChars_append cs (List.all_eq_true.mp before) (List.all_eq_true.mp after)

theorem blank_replicate (n : Nat) : blank (List.replicate n '\n') = true := by
  rw [blank, List.all_eq_true]
  intro c member
  rw [List.eq_of_mem_replicate member]
  decide

/-! ### Parts -/

theorem join_cons_cons (separator first second : List Char) (later : List (List Char)) :
    join separator (first :: second :: later) =
      first ++ separator ++ join separator (second :: later) := rfl

theorem mem_join {separator line : List Char} {lines : List (List Char)} (listed : line ∈ lines) :
    ∀ c ∈ line, c ∈ join separator lines := by
  induction lines with
  | nil => cases listed
  | cons first rest ih =>
      intro c inside
      cases rest with
      | nil =>
          rw [List.mem_singleton.mp listed] at inside
          exact inside
      | cons second later =>
          rw [join_cons_cons]
          rcases List.mem_cons.mp listed with rfl | listed
          · simp [inside]
          · exact List.mem_append_right _ (ih listed c inside)

theorem join_replicate_append (n : Nat) (lines : List (List Char)) :
    ∃ k, join ['\n'] (List.replicate n [] ++ lines) =
      List.replicate k '\n' ++ join ['\n'] lines := by
  induction n with
  | zero => exact ⟨0, rfl⟩
  | succ n ih =>
      obtain ⟨k, same⟩ := ih
      rw [List.replicate_succ, List.cons_append]
      cases after : List.replicate n [] ++ lines with
      | nil =>
          rw [after] at same
          exact ⟨k, same⟩
      | cons second later =>
          rw [after] at same
          exact ⟨k + 1, by rw [join_cons_cons, same, List.replicate_succ]; rfl⟩

theorem join_append_replicate (lines : List (List Char)) (n : Nat) :
    ∃ k, join ['\n'] (lines ++ List.replicate n []) =
      join ['\n'] lines ++ List.replicate k '\n' := by
  induction lines with
  | nil =>
      obtain ⟨k, same⟩ := join_replicate_append n []
      rw [List.append_nil] at same
      exact ⟨k, by rw [List.nil_append, same, join, List.append_nil, List.nil_append]⟩
  | cons first rest ih =>
      obtain ⟨k, same⟩ := ih
      rw [List.cons_append]
      cases rest with
      | nil =>
          rw [List.nil_append] at same ⊢
          cases n with
          | zero => exact ⟨0, (List.append_nil _).symm⟩
          | succ n =>
              rw [List.replicate_succ] at same ⊢
              refine ⟨k + 1, ?_⟩
              rw [join_cons_cons, same, List.replicate_succ]
              simp [join]
      | cons second later =>
          rw [List.cons_append] at same ⊢
          exact ⟨k, by rw [join_cons_cons, same, join_cons_cons]; simp only [List.append_assoc]⟩

section Split

variable {cut : Char → Bool}

theorem splitAt_whole {part : List Char} (whole : ∀ c ∈ part, cut c = false) :
    splitAt cut part = [part] := by
  induction part with
  | nil => rfl
  | cons c part ih =>
      obtain ⟨first, later⟩ := List.forall_mem_cons.mp whole
      rw [splitAt, first, ih later]
      rfl

theorem splitAt_append {part : List Char} (whole : ∀ c ∈ part, cut c = false) {z : Char}
    (cuts : cut z = true) (rest : List Char) :
    splitAt cut (part ++ z :: rest) = part :: splitAt cut rest := by
  induction part with
  | nil => simp [splitAt, cuts]
  | cons c part ih =>
      obtain ⟨first, later⟩ := List.forall_mem_cons.mp whole
      rw [List.cons_append, splitAt, first, ih later]
      rfl

theorem splitAt_join {parts : List (List Char)} (some : parts ≠ [])
    (whole : ∀ part ∈ parts, ∀ c ∈ part, cut c = false) {z : Char} (cuts : cut z = true) :
    splitAt cut (join [z] parts) = parts := by
  induction parts with
  | nil => exact absurd rfl some
  | cons first rest ih =>
      obtain ⟨head, tail⟩ := List.forall_mem_cons.mp whole
      cases rest with
      | nil => exact splitAt_whole head
      | cons second later =>
          rw [join_cons_cons, List.append_assoc, List.singleton_append, splitAt_append head cuts,
            ih (List.cons_ne_nil _ _) tail]

theorem exists_parts (z : Char) (cs : List Char) : ∃ parts, parts ≠ [] ∧
    (∀ part ∈ parts, z ∉ part) ∧ cs = join [z] parts := by
  induction cs with
  | nil => exact ⟨[[]], by simp, by simp, rfl⟩
  | cons c cs ih =>
      obtain ⟨parts, some, whole, rfl⟩ := ih
      obtain ⟨first, later, rfl⟩ := List.exists_cons_of_ne_nil some
      by_cases separator : c = z
      · refine ⟨[] :: first :: later, by simp, ?_, by rw [join_cons_cons, separator]; rfl⟩
        exact List.forall_mem_cons.mpr ⟨List.not_mem_nil, whole⟩
      · obtain ⟨head, tail⟩ := List.forall_mem_cons.mp whole
        refine ⟨(c :: first) :: later, by simp, ?_, ?_⟩
        · exact List.forall_mem_cons.mpr ⟨by simp [Ne.symm separator, head], tail⟩
        · cases later <;> rfl

end Split

end ReleaseAdvisor.Text
