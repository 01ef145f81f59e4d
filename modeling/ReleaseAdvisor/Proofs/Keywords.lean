import Mathlib
import ReleaseAdvisor.Proofs.BlankLines

/-!
Lines that start notes. The pattern for them takes a line apart in one way only: its blanks, bars
and stars, one of the keywords, the colons and blanks after it, and the rest. The keywords are
compared letter by letter, but for one case: where they differ in their last letters only, those
become a class, and a class has no place for a capital letter beyond the basic plane.
-/

namespace ReleaseAdvisor

namespace Text

/-! ### Characters that have no other case -/

def markPoints : List Nat :=
  [42, 58, 124] ++ ([9, 10, 11, 12, 13, 28, 29, 30, 31, 32, 133, 160, 5760] ++
    List.range' 8192 11 ++ [8232, 8233, 8239, 8287, 12288])

theorem eq_of_lowerPoint {n m : Nat} (mark : m ∈ markPoints) (low : lowerPoint n = m) : n = m := by
  have apart : ∀ run ∈ lowerRuns, ∀ m ∈ markPoints,
      m < run.2.2.2 ∨ run.2.2.2 + (run.2.1 - run.1) < m := by
    decide +kernel
  rcases partnerIn_cases n lowerRuns with
    kept | ⟨first, last, step, partner, listed, above, below, _, found⟩
  · exact kept.symm.trans low
  · have lowered : lowerPoint n = partner + (n - first) := found
    have outside := apart _ listed m mark
    dsimp only at outside
    omega

theorem lowerPoint_of_mark : ∀ m ∈ markPoints, lowerPoint m = m := by decide +kernel

theorem siblings_of_mark : ∀ m ∈ markPoints, siblings m = [m] := by decide +kernel

theorem eq_or_listed_of_mem_siblings {n m : Nat} (member : m ∈ siblings n) :
    m = n ∨ ∃ entry ∈ caseSiblings, m ∈ entry.2 := by
  rcases List.mem_cons.mp member with same | other
  · exact .inl same
  · cases found : caseSiblings.lookup n with
    | none => simp [found] at other
    | some others =>
        rw [found] at other
        obtain ⟨before, later, split, _⟩ := List.lookup_eq_some_iff.mp found
        exact .inr ⟨(n, others), by simp [split], other⟩

/-! ### Letters beyond the basic plane -/

theorem far_lowerPoint {n : Nat} (far : 0x10000 ≤ n) : 0x10000 ≤ lowerPoint n := by
  have apart : ∀ run ∈ lowerRuns, run.2.1 < 0x10000 ∨ 0x10000 ≤ run.2.2.2 := by decide +kernel
  rcases partnerIn_cases n lowerRuns with
    kept | ⟨first, last, step, partner, listed, above, below, _, found⟩
  · rw [lowerPoint, kept]
    exact far
  · have lowered : lowerPoint n = partner + (n - first) := found
    have outside := apart _ listed
    dsimp only at outside
    omega

theorem siblings_of_far {n : Nat} (far : 0x10000 ≤ n) : siblings n = [n] := by
  have near : ∀ entry ∈ caseSiblings, entry.1 < 0x10000 := by decide +kernel
  have unlisted : caseSiblings.lookup n = none := by
    rw [List.lookup_eq_none_iff]
    intro entry listed
    have below := near entry listed
    rw [bne_iff_ne]
    omega
  rw [siblings, unlisted]
  rfl

end Text

namespace Pattern

theorem Folding.eq_of_same_mark {n m : Nat} (mark : n ∈ Text.markPoints ∨ m ∈ Text.markPoints)
    (same : Folding.full.same n m = true) : n = m := by
  have within : Text.lowerPoint m ∈ Text.siblings (Text.lowerPoint n) :=
    List.contains_iff_mem.mp same
  rcases mark with first | second
  · rw [Text.lowerPoint_of_mark n first, Text.siblings_of_mark n first,
      List.mem_singleton] at within
    exact (Text.eq_of_lowerPoint first within).symm
  · rw [Text.lowerPoint_of_mark m second] at within
    rcases Text.eq_or_listed_of_mem_siblings within with same | ⟨entry, listed, member⟩
    · exact Text.eq_of_lowerPoint second same.symm
    · have apart : ∀ entry ∈ Text.caseSiblings, ∀ m ∈ entry.2, m ∉ Text.markPoints := by
        decide +kernel
      exact absurd second (apart entry listed m member)

/-! ### A choice between words -/

def isFarCapital (c : Char) : Bool :=
  decide (0x10000 ≤ c.toNat) && Text.lowerPoint c.toNat != c.toNat

/-- As a member of a class a letter stands for the letters that are the same, but a capital beyond
the basic plane for none. -/
theorem accepts_point (c d : Char) :
    Member.accepts .full d (.point c.toNat) =
      (!isFarCapital c && Folding.full.same c.toNat d.toNat) := by
  by_cases near : c.toNat < 0x10000
  · have plain : isFarCapital c = false := by simp [isFarCapital, near]
    simp [Member.accepts, near, plain]
  · have far : 0x10000 ≤ c.toNat := Nat.not_lt.mp near
    have same : Folding.full.same c.toNat d.toNat =
        (Text.lowerPoint d.toNat == Text.lowerPoint c.toNat) := by
      rw [Folding.same, Text.siblings_of_far (Text.far_lowerPoint far), List.contains_cons,
        List.contains_nil, Bool.or_false]
    have member : Member.accepts .full d (.point c.toNat) =
        (Text.lowerPoint d.toNat == c.toNat) := by
      simp [Member.accepts, near]
    rw [member, same]
    by_cases low : Text.lowerPoint c.toNat = c.toNat
    · simp [isFarCapital, low]
    · have capital : isFarCapital c = true := by simp [isFarCapital, far, low]
      rw [capital, Bool.not_true, Bool.false_and, beq_eq_false_iff_ne]
      intro lowered
      exact low (by rw [← lowered, Text.lowerPoint_lowerPoint])

instance decidableSameLetters (folding : Folding) (cs ds : List Char) :
    Decidable (SameLetters folding cs ds) :=
  inferInstanceAs (Decidable (List.Forall₂ _ cs ds))

section Words

variable {front back : List Char} {caps : Captures} {next : Next}

def past (word front back : List Char) (caps : Captures) (next : Next) : Option Outcome :=
  if SameLetters .full word (back.take word.length) then
    next (.between (front ++ back.take word.length) (back.drop word.length)) caps
  else none

theorem past_nil (front back : List Char) (caps : Captures) (next : Next) :
    past [] front back caps next = next (.between front back) caps := by
  simp [past, SameLetters]

theorem past_cons_nil (c : Char) (word front : List Char) (caps : Captures) (next : Next) :
    past (c :: word) front [] caps next = none := by
  simp [past, SameLetters]

theorem past_cons (c : Char) (word front : List Char) (d : Char) (back : List Char)
    (caps : Captures) (next : Next) :
    past (c :: word) front (d :: back) caps next =
      if Folding.full.same c.toNat d.toNat then past word (front ++ [d]) back caps next
      else none := by
  cases same : Folding.full.same c.toNat d.toNat with
  | true => simp [past, SameLetters, same]
  | false => simp [past, SameLetters, same]

theorem past_append (start word front back : List Char) (caps : Captures) (next : Next) :
    past (start ++ word) front back caps next =
      if SameLetters .full start (back.take start.length) then
        past word (front ++ back.take start.length) (back.drop start.length) caps next
      else none := by
  induction start generalizing front back with
  | nil => simp [SameLetters]
  | cons c start ih =>
      cases back with
      | nil => simp [past_cons_nil, SameLetters]
      | cons d back =>
          rw [List.cons_append, past_cons, ih]
          cases same : Folding.full.same c.toNat d.toNat <;> simp [SameLetters, same]

theorem run_past (word front back : List Char) (caps : Captures) (next : Next) :
    (Node.ofList (Node.literal .full word)).run (.between front back) caps next =
      past word front back caps next := by
  induction word generalizing front back with
  | nil => rw [past_nil]; rfl
  | cons c word ih =>
      change (Node.ofList (.one (.point c.toNat .full) :: Node.literal .full word)).run _ _ _ = _
      rw [Node.run_cons]
      cases back with
      | nil => rw [past_cons_nil]; rfl
      | cons d back =>
          rw [Node.run_one, past_cons, ih]
          rfl

theorem run_anyOf {nodes : List Node} (some : nodes ≠ []) (c : Cursor) (caps : Captures)
    (next : Next) :
    (Node.anyOf nodes).run c caps next = nodes.findSome? fun node => node.run c caps next := by
  induction nodes with
  | nil => exact absurd rfl some
  | cons node nodes ih =>
      cases nodes with
      | nil => simp [Node.anyOf]
      | cons second nodes =>
          have later := ih (List.cons_ne_nil _ _)
          change (Node.either node (Node.anyOf (second :: nodes))).run c caps next = _
          rw [Node.run_either, List.findSome?_cons, ← later]
          cases node.run c caps next <;> rfl

end Words

end Pattern

namespace Grammar

open Pattern

theorem ofItems_keywordItems (keyword : List Char) :
    Node.ofItems (keywordItems keyword) = .ofList (Node.literal .full keyword) := by
  rw [Node.ofItems, keywordItems, List.map_map]
  rfl

def letterItem (c : Char) : Item := ⟨.one (.point c.toNat .full), .plain⟩

theorem keywordItems_eq (keyword : List Char) : keywordItems keyword = keyword.map letterItem := rfl

theorem alike_letterItem {c d : Char} : (letterItem c).alike (letterItem d) = true ↔ c = d := by
  simp [Item.alike, letterItem, Char.toNat_inj]

theorem starts_alike_iff {c : Char} {others : List (List Char)} :
    ((others.map keywordItems).all fun other => other.head?.any (letterItem c).alike) = true ↔
      ∀ other ∈ others, other.head? = some c := by
  rw [List.all_map, List.all_eq_true]
  refine forall₂_congr fun other _ => ?_
  cases other with
  | nil => simp [keywordItems]
  | cons d other =>
      simp only [Function.comp_apply, keywordItems_eq, List.map_cons, List.head?_cons,
        Option.any_some, alike_letterItem, Option.some.injEq]
      exact eq_comm

theorem exists_commonStart (first : List Char) (others : List (List Char)) :
    ∃ (start : List Char) (tails : List (List Char)),
      commonStart (keywordItems first) (others.map keywordItems) =
        (keywordItems start, tails.map keywordItems) ∧
      first :: others = tails.map (start ++ ·) ∧ ∀ c, ∃ tail ∈ tails, tail.head? ≠ some c := by
  induction first generalizing others with
  | nil => exact ⟨[], [] :: others, rfl, by simp, fun c => ⟨[], by simp, by simp⟩⟩
  | cons c first ih =>
      rw [keywordItems_eq, List.map_cons, ← keywordItems_eq, commonStart]
      -- The letter is part of the start just if all the others begin with it.
      by_cases shared : ∀ other ∈ others, other.head? = some c
      · rw [if_pos (starts_alike_iff.mpr shared)]
        have rest : (others.map keywordItems).map List.tail =
            (others.map List.tail).map keywordItems := by
          simp [keywordItems_eq]
        obtain ⟨start, tails, split, words, longest⟩ := ih (others.map List.tail)
        refine ⟨c :: start, tails, ?_, ?_, longest⟩
        · rw [rest, split]
          rfl
        · have whole : (others.map List.tail).map (c :: ·) = others := by
            rw [List.map_map]
            refine (List.map_congr_left fun other listed => ?_).trans (List.map_id others)
            exact List.cons_head?_tail (shared other listed)
          calc (c :: first) :: others = (first :: others.map List.tail).map (c :: ·) := by
                rw [List.map_cons, whole]
            _ = (tails.map (start ++ ·)).map (c :: ·) := by rw [words]
            _ = tails.map (c :: start ++ ·) := List.map_map
      · rw [if_neg (starts_alike_iff.not.mpr shared)]
        refine ⟨[], (c :: first) :: others, rfl, by simp, fun d => ?_⟩
        by_cases same : d = c
        · subst same
          simp only [not_forall] at shared
          obtain ⟨other, listed, differs⟩ := shared
          exact ⟨other, List.mem_cons_of_mem _ listed, differs⟩
        · exact ⟨c :: first, List.mem_cons_self, by simpa using Ne.symm same⟩

theorem soleMembers?_eq_some {tail : List Char} {members : List Member} :
    soleMembers? (keywordItems tail) = some members ↔
      ∃ c, tail = [c] ∧ members = [.point c.toNat] := by
  rw [keywordItems_eq]
  match tail with
  | [] => simp [soleMembers?]
  | [c] => simp [soleMembers?, letterItem, Item.members?, eq_comm]
  | _ :: _ :: _ => simp [soleMembers?]

theorem mapM_soleMembers? {tails : List (List Char)} {members : List (List Member)} :
    (tails.map keywordItems).mapM soleMembers? = some members ↔
      ∃ letters : List Char, tails = letters.map ([·]) ∧
        members = letters.map fun c => [.point c.toNat] := by
  induction tails generalizing members with
  | nil =>
      constructor
      · intro done
        cases done
        exact ⟨[], rfl, rfl⟩
      · rintro ⟨letters, split, rfl⟩
        rw [List.map_eq_nil_iff.mp split.symm]
        rfl
  | cons tail tails ih =>
      rw [List.map_cons, List.mapM_cons]
      simp only [Option.bind_eq_bind, Option.bind_eq_some_iff]
      constructor
      · rintro ⟨own, sole, others, rest, same⟩
        obtain ⟨c, rfl, rfl⟩ := soleMembers?_eq_some.mp sole
        obtain ⟨letters, rfl, rfl⟩ := ih.mp rest
        cases same
        exact ⟨c :: letters, rfl, rfl⟩
      · rintro ⟨letters, split, rfl⟩
        cases letters with
        | nil => cases split
        | cons c letters =>
            obtain ⟨rfl, rest⟩ := List.cons.inj split
            exact ⟨_, soleMembers?_eq_some.mpr ⟨c, rfl, rfl⟩, _, ih.mpr ⟨letters, rest, rfl⟩, rfl⟩

def letterClass (letters : List Char) : Test :=
  .oneOf (letters.map fun c => [Member.point c.toNat]).flatten.eraseDups true .full

/-- What a choice between words is made into: the longest start that they share, and after it a
class, if one letter of each is left, or a choice between what is left. -/
inductive IsChoice : List (List Char) → List Item → Prop
  | alone (word : List Char) : IsChoice [word] (keywordItems word)
  | letters (start letters : List Char)
      (longest : ∀ c, ∃ tail ∈ letters.map ([·]), tail.head? ≠ some c) :
      IsChoice ((letters.map ([·])).map (start ++ ·))
        (keywordItems start ++ [⟨.one (letterClass letters), .plain⟩])
  | tails (start : List Char) (tails : List (List Char))
      (longest : ∀ c, ∃ tail ∈ tails, tail.head? ≠ some c)
      (several : ¬ ∃ letters : List Char, tails = letters.map ([·])) :
      IsChoice (tails.map (start ++ ·))
        (keywordItems start ++
          [⟨.anyOf (tails.map fun tail => Node.ofItems (keywordItems tail)), .plain⟩])

theorem isChoice_choice {words : List (List Char)} (given : words ≠ []) :
    IsChoice words (choice .full (words.map keywordItems)) := by
  match words with
  | [] => exact absurd rfl given
  | [word] => exact .alone word
  | first :: second :: others =>
      obtain ⟨start, tails, split, whole, longest⟩ := exists_commonStart first (second :: others)
      simp only [List.map_cons] at split
      cases left : (tails.map keywordItems).mapM soleMembers? with
      | some members =>
          have made : choice .full ((first :: second :: others).map keywordItems) =
              keywordItems start ++
                [⟨.one (.oneOf members.flatten.eraseDups true .full), .plain⟩] := by
            simp only [choice, List.map_cons, split, left]
          obtain ⟨letters, rfl, rfl⟩ := mapM_soleMembers?.mp left
          rw [made, whole]
          exact .letters start letters longest
      | none =>
          have made : choice .full ((first :: second :: others).map keywordItems) =
              keywordItems start ++
                [⟨.anyOf ((tails.map keywordItems).map Node.ofItems), .plain⟩] := by
            simp only [choice, List.map_cons, split, left]
          have several : ¬ ∃ letters : List Char, tails = letters.map ([·]) := by
            rintro ⟨letters, same⟩
            rw [mapM_soleMembers?.mpr ⟨letters, same, rfl⟩] at left
            cases left
          rw [made, whole, List.map_map]
          exact .tails start tails longest several

def DifferAtEnd (words : List (List Char)) : Prop :=
  (∀ word ∈ words, word ≠ [] ∧ ∀ other ∈ words, word.dropLast = other.dropLast) ∧
    ∃ word ∈ words, ∃ other ∈ words, word ≠ other

instance decidableDifferAtEnd (words : List (List Char)) : Decidable (DifferAtEnd words) :=
  inferInstanceAs (Decidable (_ ∧ _))

/-- The words that are found among others: all of them, but where they differ in their last letters
only, not those that end with a capital beyond the basic plane. -/
def heard (words : List (List Char)) : List (List Char) :=
  if DifferAtEnd words then words.filter fun word => !word.getLast?.any isFarCapital else words

theorem heard_eq_self {words : List (List Char)}
    (near : ∀ word ∈ words, word.getLast?.any isFarCapital = false) : heard words = words := by
  rw [heard]
  split
  · exact List.filter_eq_self.mpr fun word listed => by rw [near word listed, Bool.not_false]
  · rfl

section Tails

variable {start : List Char} {tails : List (List Char)}

theorem differAtEnd_of_letters {letters : List Char}
    (longest : ∀ c, ∃ tail ∈ letters.map ([·]), tail.head? ≠ some c) :
    DifferAtEnd ((letters.map ([·])).map (start ++ ·)) := by
  rw [List.map_map]
  constructor
  · intro word listed
    obtain ⟨c, _, rfl⟩ := List.mem_map.mp listed
    refine ⟨by simp, fun other listed => ?_⟩
    obtain ⟨d, _, rfl⟩ := List.mem_map.mp listed
    simp
  · obtain ⟨_, listed, _⟩ := longest 'a'
    obtain ⟨c, first, rfl⟩ := List.mem_map.mp listed
    obtain ⟨_, listed, differs⟩ := longest c
    obtain ⟨d, second, rfl⟩ := List.mem_map.mp listed
    refine ⟨_, List.mem_map_of_mem first, _, List.mem_map_of_mem second, ?_⟩
    simpa using Ne.symm differs

theorem exists_letters_of_differAtEnd (differ : DifferAtEnd (tails.map (start ++ ·)))
    (longest : ∀ c, ∃ tail ∈ tails, tail.head? ≠ some c) :
    ∃ letters : List Char, tails = letters.map ([·]) := by
  obtain ⟨same, word, listed, other, listed', unequal⟩ := differ
  have fits : ∀ tail ∈ tails, ∀ other ∈ tails,
      start ++ tail ≠ [] ∧ (start ++ tail).dropLast = (start ++ other).dropLast := by
    intro tail first other second
    obtain ⟨some, each⟩ := same _ (List.mem_map_of_mem first)
    exact ⟨some, each _ (List.mem_map_of_mem second)⟩
  -- An empty tail is the end of the start, and then all tails are as long as it.
  have nonempty : ∀ tail ∈ tails, tail ≠ [] := by
    rintro tail first rfl
    obtain ⟨tail, second, rfl⟩ := List.mem_map.mp listed
    obtain ⟨other, third, rfl⟩ := List.mem_map.mp listed'
    have none : ∀ t ∈ tails, t = [] := by
      intro t member
      obtain ⟨some, equal⟩ := fits [] first t member
      have sizes := congrArg List.length equal
      have long := List.length_pos_iff.mpr some
      simp only [List.length_dropLast, List.length_append, List.length_nil] at sizes long
      exact List.length_eq_zero_iff.mp (by omega)
    rw [none tail second, none other third] at unequal
    exact unequal rfl
  -- Tails of two letters or more would have the first one in common.
  have single : ∀ tail ∈ tails, ∃ c, [c] = tail := by
    intro tail member
    match tail, member with
    | [], member => exact absurd rfl (nonempty [] member)
    | [c], _ => exact ⟨c, rfl⟩
    | c :: d :: rest, member =>
        obtain ⟨other, listed, differs⟩ := longest c
        obtain ⟨_, equal⟩ := fits _ member other listed
        rw [List.dropLast_append_of_ne_nil (List.cons_ne_nil _ _),
          List.dropLast_append_of_ne_nil (nonempty other listed),
          List.append_cancel_left_eq] at equal
        match other, differs with
        | [], _ => cases equal
        | [_], _ => cases equal
        | x :: _ :: _, differs =>
            obtain ⟨rfl, _⟩ := List.cons.inj equal
            exact absurd rfl differs
  have lists : tails ∈ Set.range (List.map fun c : Char => [c]) := by
    rw [Set.range_list_map]
    exact single
  obtain ⟨letters, made⟩ := lists
  exact ⟨letters, made.symm⟩

end Tails

section Choice

variable {caps : Captures} {next : Next}

theorem findSome?_past (start front back : List Char) (tails : List (List Char)) :
    (tails.map (start ++ ·)).findSome? (fun word => past word front back caps next) =
      if SameLetters .full start (back.take start.length) then
        tails.findSome? fun tail =>
          past tail (front ++ back.take start.length) (back.drop start.length) caps next
      else none := by
  rw [List.findSome?_map]
  simp only [Function.comp_def, past_append]
  split
  · rfl
  · exact List.findSome?_eq_none_iff.mpr fun _ _ => rfl

theorem findSome?_ite {α β : Type} (p : α → Bool) (x : Option β) (items : List α) :
    items.findSome? (fun a => if p a then x else none) = if items.any p then x else none := by
  cases x with
  | none => simp
  | some y =>
      induction items with
      | nil => rfl
      | cons a items ih =>
          rw [List.findSome?_cons, ih, List.any_cons]
          cases p a <;> rfl

theorem run_letterClass (letters front back : List Char) :
    (Node.one (letterClass letters)).run (.between front back) caps next =
      ((letters.filter fun c => !isFarCapital c).map ([·])).findSome? fun word =>
        past word front back caps next := by
  rw [List.findSome?_map]
  cases back with
  | nil =>
      refine (List.findSome?_eq_none_iff.mpr fun c _ => ?_).symm
      exact past_cons_nil c [] front caps next
  | cons d back =>
      have accepts : (letterClass letters).accepts d =
          (letters.filter fun c => !isFarCapital c).any fun c =>
            Folding.full.same c.toNat d.toNat := by
        rw [Bool.eq_iff_iff]
        simp [letterClass, Test.accepts, accepts_point]
      rw [Node.run_one, accepts]
      simp only [Function.comp_def, past_cons, past_nil, findSome?_ite]

theorem run_start (start : List Char) (last : Item) (front back : List Char) :
    (Node.ofItems (keywordItems start ++ [last])).run (.between front back) caps next =
      if SameLetters .full start (back.take start.length) then
        last.node.run (.between (front ++ back.take start.length) (back.drop start.length)) caps
          next
      else none := by
  have nodes : (keywordItems start).map (·.node) = Node.literal .full start := by
    rw [keywordItems, List.map_map]
    rfl
  rw [Node.ofItems, List.map_append, nodes, Node.run_append, run_past]
  rfl

theorem run_choice {words : List (List Char)} (given : words ≠ []) (front back : List Char) :
    (Node.ofItems (choice .full (words.map keywordItems))).run (.between front back) caps next =
      (heard words).findSome? fun word => past word front back caps next := by
  have made := isChoice_choice given
  generalize choice .full (words.map keywordItems) = items at made
  -- Only letters that became a class can go unheard.
  cases made with
  | alone word =>
      have same : heard [word] = [word] := if_neg (by simp [DifferAtEnd])
      rw [same, List.findSome?_singleton, ofItems_keywordItems, run_past]
  | letters start letters longest =>
      have kept : heard ((letters.map ([·])).map (start ++ ·)) =
          ((letters.filter fun c => !isFarCapital c).map ([·])).map (start ++ ·) := by
        rw [heard, if_pos (differAtEnd_of_letters longest), List.map_map, List.map_map,
          List.filter_map]
        simp [Function.comp_def]
      rw [kept, findSome?_past, run_start, run_letterClass]
  | tails start tails longest several =>
      have kept : heard (tails.map (start ++ ·)) = tails.map (start ++ ·) :=
        if_neg fun differ => several (exists_letters_of_differAtEnd differ longest)
      have some : tails.map (fun tail => Node.ofItems (keywordItems tail)) ≠ [] := by
        obtain ⟨tail, listed, _⟩ := longest 'a'
        simpa using List.ne_nil_of_mem listed
      rw [kept, findSome?_past, run_start]
      simp only [run_anyOf some]
      simp only [List.findSome?_map, Function.comp_def, ofItems_keywordItems, run_past]

end Choice

/-! ### Lines -/

def isLead (c : Char) : Bool := Text.isBlank c || c == '|' || c == '*'

def isGap (c : Char) : Bool := c == ':' || Text.isBlank c

def leadTest : Test :=
  .oneOf [.named .blank false true, .point '|'.toNat, .point '*'.toNat] true .full

def gapTest : Test := .oneOf [.point ':'.toNat, .named .blank false true] true .full

theorem toNat_mem_markPoints {c : Char} (mark : isLead c = true ∨ isGap c = true) :
    c.toNat ∈ Text.markPoints := by
  have cases : c = '|' ∨ c = '*' ∨ c = ':' ∨ Text.isBlank c = true := by
    simp only [isLead, isGap, Bool.or_eq_true, beq_iff_eq] at mark
    tauto
  rcases cases with rfl | rfl | rfl | blank
  · decide +kernel
  · decide +kernel
  · decide +kernel
  · exact List.mem_append_right _ (toNat_of_isBlank blank)

theorem accepts_mark {m : Char} (mark : m.toNat ∈ Text.markPoints) (c : Char) :
    Member.accepts .full c (.point m.toNat) = (c == m) := by
  have plain : isFarCapital m = false := by
    rw [isFarCapital, Text.lowerPoint_of_mark _ mark]
    simp
  rw [accepts_point, plain, Bool.not_false, Bool.true_and, Bool.eq_iff_iff, beq_iff_eq]
  constructor
  · intro same
    exact (Char.toNat_inj.mp (Folding.eq_of_same_mark (.inl mark) same)).symm
  · rintro rfl
    exact Folding.same_self .full _

theorem accepts_blank (c : Char) :
    Member.accepts .full c (.named .blank false true) = Text.isBlank c := by
  simp [Member.accepts, Kind.holds]

theorem accepts_leadTest (c : Char) : leadTest.accepts c = isLead c := by
  simp only [leadTest, Test.accepts, List.any_cons, List.any_nil, accepts_blank,
    accepts_mark (m := '|') (by decide +kernel), accepts_mark (m := '*') (by decide +kernel)]
  simp [isLead, Bool.or_assoc]

theorem accepts_gapTest (c : Char) : gapTest.accepts c = isGap c := by
  simp only [gapTest, Test.accepts, List.any_cons, List.any_nil, accepts_blank,
    accepts_mark (m := ':') (by decide +kernel)]
  simp [isGap]

theorem head?_dropWhile {test : Char → Bool} (cs : List Char) :
    ∀ x ∈ (cs.dropWhile test).head?, test x = false := by
  intro x first
  have refused := List.head?_dropWhile_not test cs
  rw [first] at refused
  exact refused

theorem run_greedy_only {test : Test} {front back : List Char} {caps : Captures} {next : Next}
    (stuck : ∀ u x v, back = u ++ x :: v → test.accepts x = true →
      next (.between (front ++ u) (x :: v)) caps = none) :
    (Node.many test 0 none .greedy).run (.between front back) caps next =
      next (.between (front ++ back.takeWhile test.accepts) (back.dropWhile test.accepts))
        caps := by
  have cut : back = back.takeWhile test.accepts ++ back.dropWhile test.accepts :=
    List.takeWhile_append_dropWhile.symm
  cases goes : next (.between (front ++ back.takeWhile test.accepts)
      (back.dropWhile test.accepts)) caps with
  | some o =>
      exact Node.run_greedy_all cut (Takes.of_accepted fun x => List.mem_takeWhile_imp)
        (.inl (head?_dropWhile back)) goes
  | none =>
      rw [Option.eq_none_iff_forall_ne_some]
      intro o found
      -- Where it takes less than it may, what goes on stands before a character that it could take.
      obtain ⟨u, v, rfl, takes, later⟩ := Node.exists_of_run_many found
      rw [List.takeWhile_append_of_pos takes.accepted,
        List.dropWhile_append_of_pos takes.accepted] at goes
      cases v with
      | nil => simp [later] at goes
      | cons x v =>
          cases accepted : test.accepts x with
          | true =>
              rw [stuck u x v rfl accepted] at later
              cases later
          | false => simp [accepted, later] at goes

def textNodes : List Node :=
  [.many gapTest 1 none .greedy, .group 2 (.many .inLine 0 none .greedy)]

theorem run_textNodes {front back : List Char} (single : '\n' ∉ back) (caps : Captures) :
    (Node.ofList textNodes).run (.between front back) caps finish =
      if back.head?.any isGap then
        some (.between (front ++ back) [], (2, .taken (back.dropWhile isGap) []) :: caps)
      else none := by
  rw [textNodes, Node.run_cons]
  split
  · rename_i gap
    have cut : back = back.takeWhile isGap ++ back.dropWhile isGap :=
      List.takeWhile_append_dropWhile.symm
    have some : 1 ≤ (back.takeWhile isGap).length := by
      cases back with
      | nil => simp at gap
      | cons x rest =>
          have mark : isGap x = true := gap
          simp [mark]
    have takes : Takes gapTest 1 none (back.takeWhile isGap) :=
      ⟨fun x inside => (accepts_gapTest x).trans (List.mem_takeWhile_imp inside), some, nofun⟩
    have ends : ∀ x ∈ (back.dropWhile isGap).head?, gapTest.accepts x = false :=
      fun x first => (accepts_gapTest x).trans (head?_dropWhile back x first)
    have line : '\n' ∉ back.dropWhile isGap := fun inside =>
      single (List.dropWhile_subset _ inside)
    refine Node.run_greedy_all cut takes (.inl ends) ?_
    rw [Node.ofList, Node.run_group]
    refine Node.run_greedy_all (List.append_nil _).symm (takes_inLine line) (.inl (by simp)) ?_
    have text := Cursor.upTo_between (front ++ back.takeWhile isGap) (back.dropWhile isGap) []
    rw [List.append_nil] at text
    rw [text, List.append_assoc, ← cut]
    rfl
  · rename_i other
    -- Any match takes a gap first, and the line has none there.
    rw [Option.eq_none_iff_forall_ne_some]
    intro o found
    obtain ⟨u, v, rfl, takes, _⟩ := Node.exists_of_run_many found
    cases u with
    | nil => exact absurd takes.least_le (by simp)
    | cons x u =>
        have gap := takes.accepted x List.mem_cons_self
        rw [accepts_gapTest] at gap
        simp [gap] at other

/-- The text starts with the keyword, up to case, and a colon or blank follows. -/
def Announces (rest keyword : List Char) : Prop :=
  SameLetters .full keyword (rest.take keyword.length) ∧
    (rest.drop keyword.length).head?.any isGap = true

instance decidableAnnounces (rest keyword : List Char) : Decidable (Announces rest keyword) :=
  inferInstanceAs (Decidable (_ ∧ _))

theorem past_textNodes {rest : List Char} (single : '\n' ∉ rest) (word front : List Char) :
    past word front rest [] (fun c caps => (Node.ofList textNodes).run c
        ((1, (Cursor.between front rest).upTo c) :: caps) finish) =
      if Announces rest word then
        some (.between (front ++ rest) [],
          [(2, .taken ((rest.drop word.length).dropWhile isGap) []),
            (1, .taken (rest.take word.length) (rest.drop word.length))])
      else none := by
  have title := Cursor.upTo_between front (rest.take word.length) (rest.drop word.length)
  have later : '\n' ∉ rest.drop word.length := fun inside => single (List.mem_of_mem_drop inside)
  rw [List.take_append_drop] at title
  rw [past, title, run_textNodes later, List.append_assoc, List.take_append_drop]
  simp only [Announces]
  split <;> rename_i same <;> simp [same]

theorem findSome?_eq_map_find? {α β : Type} (p : α → Prop) [DecidablePred p] (f : α → β)
    (items : List α) :
    items.findSome? (fun a => if p a then some (f a) else none) =
      (items.find? fun a => decide (p a)).map f := by
  induction items with
  | nil => rfl
  | cons a items ih =>
      rw [List.findSome?_cons, List.find?_cons, ih]
      by_cases holds : p a <;> simp [holds]

theorem subset_of_heard {words : List (List Char)} : heard words ⊆ words := by
  rw [heard]
  split
  · exact List.filter_subset_self _
  · exact List.Subset.refl _

theorem past_of_isLead {word : List Char} (opens : (word.head?.any fun c => !isLead c) = true)
    {x : Char} (lead : isLead x = true) (front back : List Char) (caps : Captures) (next : Next) :
    past word front (x :: back) caps next = none := by
  obtain ⟨c, first, own⟩ := (Option.any_eq_true ..).mp opens
  obtain ⟨word, rfl⟩ := List.head?_eq_some_iff.mp first
  have unlike : Folding.full.same c.toNat x.toNat = false := by
    rw [Bool.eq_false_iff]
    intro same
    have equal := Folding.eq_of_same_mark (.inr (toNat_mem_markPoints (.inl lead))) same
    rw [Char.toNat_inj.mp equal, lead] at own
    cases own
  rw [past_cons, unlike]
  rfl

/-- A line starts a note just if a keyword comes first after its blanks, bars and stars, and a colon
or blank after that. The title is what the line has for the first such keyword. -/
theorem match?_notePattern {keywords : List String} (given : keywords ≠ [])
    (opens : ∀ keyword ∈ keywords, (keyword.toList.head?.any fun c => !isLead c) = true)
    {line : List Char} (single : '\n' ∉ line) :
    (notePattern keywords).match? line =
      ((heard (keywords.map String.toList)).find? fun keyword =>
        Announces (line.dropWhile isLead) keyword).map fun keyword =>
          [some ((line.dropWhile isLead).take keyword.length),
            some (((line.dropWhile isLead).drop keyword.length).dropWhile isGap)] := by
  have words : keywords.map String.toList ≠ [] := by simpa using given
  -- No keyword starts with a lead, so the leads cannot be given back to one.
  have stuck : ∀ u x v, line = u ++ x :: v → leadTest.accepts x = true →
      (Node.ofList (.group 1 (Node.ofItems (choice .full
        ((keywords.map String.toList).map keywordItems))) :: textNodes)).run
          (.between ([] ++ u) (x :: v)) [] finish = none := by
    intro u x v _ accepted
    rw [accepts_leadTest] at accepted
    rw [Node.run_cons, Node.run_group, run_choice words, List.findSome?_eq_none_iff]
    intro word listed
    obtain ⟨keyword, member, rfl⟩ := List.mem_map.mp (subset_of_heard listed)
    exact past_of_isLead (opens keyword member) accepted _ _ _ _
  have nodes : noteNode (keywords.map String.toList) = .ofList (.stand .textStart ::
      .many leadTest 0 none .greedy ::
      .group 1 (Node.ofItems (choice .full ((keywords.map String.toList).map keywordItems))) ::
      textNodes) := rfl
  have tests : leadTest.accepts = isLead := funext accepts_leadTest
  have later : '\n' ∉ line.dropWhile isLead := fun inside =>
    single (List.dropWhile_subset _ inside)
  change ((noteNode (keywords.map String.toList)).run (.between [] line) [] finish).map _ = _
  rw [nodes, Node.run_textStart, Node.run_cons, run_greedy_only stuck, Node.run_cons,
    Node.run_group, run_choice words]
  simp only [tests, past_textNodes later, findSome?_eq_map_find?, Option.map_map]
  refine congrFun (congrArg Option.map (funext fun keyword => ?_)) _
  simp [notePattern, List.range_succ, List.lookup_cons]

end Grammar

end ReleaseAdvisor
