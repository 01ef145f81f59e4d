import Mathlib
import ReleaseAdvisor.Proofs.Keywords

/-!
The text of the pattern for notes. The keywords stand in it with a backslash before each character
that may mean something in a pattern. Read as a pattern, the text is the one that looks for them
letter by letter.
-/

namespace ReleaseAdvisor

namespace Pattern

/-! ### Texts that stand for themselves -/

def specials : List Char :=
  ['(', ')', '[', ']', '{', '}', '?', '*', '+', '-', '|', '^', '$', '\\', '.', '&', '~', '#', ' ',
    '\t', '\n', '\r', '\x0b', '\x0c']

def escapeChar (c : Char) : Token := if c ∈ specials then ['\\', c] else [c]

theorem escapeChar_ne (c : Char) : escapeChar c ≠ ['\\'] := by
  rw [escapeChar]
  split
  · simp
  · rename_i plain
    rintro same
    obtain ⟨rfl, _⟩ := List.cons.inj same
    exact plain (by decide)

def escape (text : List Char) : List Char := text.flatMap escapeChar

theorem tokens_cons {c : Char} (plain : c ≠ '\\') (rest : List Char) :
    tokens (c :: rest) = [c] :: tokens rest := by
  rw [tokens]
  exact fun _ _ same => absurd same plain

theorem tokens_escapeChar (c : Char) (rest : List Char) :
    tokens (escapeChar c ++ rest) = escapeChar c :: tokens rest := by
  rw [escapeChar]
  split
  · rfl
  · rename_i plain
    have other : c ≠ '\\' := by
      rintro rfl
      exact plain (by decide)
    exact tokens_cons other rest

theorem tokens_escape (text rest : List Char) :
    tokens (escape text ++ rest) = text.map escapeChar ++ tokens rest := by
  induction text with
  | nil => rfl
  | cons c text ih =>
      rw [escape, List.flatMap_cons, List.append_assoc, tokens_escapeChar, ← escape, ih]
      rfl

/-! ### Reading them -/

section Reading

variable {fuel : Nat} {scope : Scope} {first : Bool} {done : List Piece} {rest : List Token}
  (r : Reading) (pos : Nat)

theorem take_run (token : Token) (sound : rest.head? ≠ some ['\\']) :
    take.run { r with rest := token :: rest, pos } =
      .ok (some token, { r with rest, pos := pos + token.length }) := by
  have plain : (rest.head? == some ['\\']) = false := by simpa using sound
  unfold take
  simp only [refuseDangling, peek, StateT.run_bind, StateT.run_get, StateT.run_modify, pure_bind,
    bind_assoc, StateT.run_pure, plain]
  rfl

theorem takeIf_of_ne {c : Char} (other : rest.head? ≠ some [c]) :
    (takeIf c).run { r with rest, pos } = .ok (false, { r with rest, pos }) := by
  have unlike : (rest.head? == some [c]) = false := by simpa using other
  simp only [takeIf, peek, StateT.run_bind, StateT.run_get, pure_bind, StateT.run_pure, unlike]
  rfl

theorem takeIf_run (c : Char) (sound : rest.head? ≠ some ['\\']) :
    (takeIf c).run { r with rest := [c] :: rest, pos } =
      .ok (true, { r with rest, pos := pos + 1 }) := by
  simp only [takeIf, peek, StateT.run_bind, StateT.run_get, pure_bind, StateT.run_pure,
    List.head?_cons, beq_self_eq_true, if_true, take_run r pos [c] sound]
  rfl

theorem takeUntil_run {closing : Char} {what : String} (mark : closing ≠ '\\') {name : List Char}
    (plain : ∀ c ∈ name, c ≠ closing ∧ c ≠ '\\') (sound : rest.head? ≠ some ['\\'])
    (enough : name.length < fuel) {read : List Char} (named : read ++ name ≠ []) :
    (takeUntil closing what fuel read).run
        { r with rest := name.map ([·]) ++ [closing] :: rest, pos } =
      .ok (String.ofList (read ++ name), { r with rest, pos := pos + name.length + 1 }) := by
  induction name generalizing fuel read pos with
  | nil =>
      obtain ⟨fuel, rfl⟩ := Nat.exists_eq_succ_of_ne_zero (Nat.ne_zero_of_lt enough)
      rw [List.append_nil] at named
      rw [takeUntil, StateT.run_bind, List.map_nil, List.nil_append, take_run r pos _ sound,
        Outcome.ok_bind]
      simp [List.isEmpty_iff, named]
      rfl
  | cons c name ih =>
      obtain ⟨fuel, rfl⟩ := Nat.exists_eq_succ_of_ne_zero (Nat.ne_zero_of_lt enough)
      obtain ⟨own, others⟩ := List.forall_mem_cons.mp plain
      have next : (name.map ([·]) ++ [closing] :: rest).head? ≠ some ['\\'] := by
        cases name with
        | nil => simpa using mark
        | cons d name => simpa using (others d List.mem_cons_self).2
      have other : ([c] == [closing]) = false := by simpa using own.1
      rw [takeUntil, StateT.run_bind, List.map_cons, List.cons_append, take_run r pos _ next,
        Outcome.ok_bind]
      simp only [other, Bool.false_eq_true, if_false]
      rw [ih _ others (Nat.lt_of_succ_lt_succ enough) (by simp)]
      simp only [List.append_assoc, List.singleton_append, List.length_cons, List.length_nil,
        Except.ok.injEq, Prod.mk.injEq, Reading.mk.injEq, true_and, and_true]
      omega

theorem readEscape_special (flags : Flags) : ∀ c ∈ specials,
    readEscape flags c = pure (literal flags c.toNat) := by
  simp only [specials, List.forall_mem_cons, List.not_mem_nil, false_implies, implies_true,
    and_true]
  and_intros <;> rfl

theorem readSequence_escapeChar (terse : scope.verbose = false) (c : Char)
    (sound : rest.head? ≠ some ['\\']) :
    (readSequence (fuel + 1) scope first done).run { r with rest := escapeChar c :: rest, pos } =
      (readSequence fuel scope first (literal (scope.flags r.flags) c.toNat :: done)).run
        { r with rest, pos := pos + (escapeChar c).length } := by
  have taken := take_run r pos (escapeChar c) sound
  rw [readSequence]
  by_cases special : c ∈ specials
  · have token : escapeChar c = ['\\', c] := if_pos special
    rw [token] at taken ⊢
    rw [StateT.run_bind, StateT.run_get, pure_bind]
    dsimp only [List.head?_cons]
    rw [if_neg (by simp)]
    simp only [StateT.run_bind, StateT.run_get, pure_bind, taken, Outcome.ok_bind,
      readEscape_special _ c special]
  · have token : escapeChar c = [c] := if_neg special
    have other : ∀ d ∈ specials, c ≠ d := fun d listed same => special (same ▸ listed)
    have bar : c ≠ '|' := other '|' (by decide)
    have closing : c ≠ ')' := other ')' (by decide)
    rw [token] at taken ⊢
    rw [StateT.run_bind, StateT.run_get, pure_bind]
    dsimp only [List.head?_cons]
    rw [if_neg (by simp [bar, closing])]
    simp only [StateT.run_bind, StateT.run_get, pure_bind, taken, Outcome.ok_bind, terse,
      Bool.false_and, Bool.false_eq_true, if_false]
    -- Each sign that opens something else gets a backslash.
    split
    all_goals first | rfl | exact absurd rfl (other _ (by decide))

def Ends (rest : List Token) : Prop :=
  rest.head? = none ∨ rest.head? = some ['|'] ∨ rest.head? = some [')']

theorem Ends.sound (ends : Ends rest) : rest.head? ≠ some ['\\'] := by
  rcases ends with none | bar | closing
  · simp [none]
  · simp [bar]
  · simp [closing]

theorem readSequence_of_ends (ends : Ends rest) :
    (readSequence (fuel + 1) scope first done).run { r with rest, pos } =
      .ok (done, { r with rest, pos }) := by
  rw [readSequence, StateT.run_bind, StateT.run_get, pure_bind]
  dsimp only
  rw [if_pos (by rcases ends with same | same | same <;> simp [same])]
  rfl

theorem text_sound (text : List Char) (sound : rest.head? ≠ some ['\\']) :
    (text.map escapeChar ++ rest).head? ≠ some ['\\'] := by
  cases text with
  | nil => exact sound
  | cons c text => simpa using escapeChar_ne c

theorem readSequence_text (fuel : Nat) (first : Bool) (terse : scope.verbose = false)
    (text : List Char) (ends : Ends rest) (enough : text.length < fuel) (done : List Piece) :
    ∃ pos', (readSequence fuel scope first done).run
        { r with rest := text.map escapeChar ++ rest, pos } =
      .ok ((text.map fun c => literal (scope.flags r.flags) c.toNat).reverse ++ done,
        { r with rest, pos := pos' }) := by
  induction text generalizing fuel done pos with
  | nil =>
      obtain ⟨fuel, rfl⟩ := Nat.exists_eq_succ_of_ne_zero (Nat.ne_of_gt enough)
      exact ⟨pos, readSequence_of_ends r pos ends⟩
  | cons c text ih =>
      obtain ⟨fuel, rfl⟩ := Nat.exists_eq_succ_of_ne_zero (Nat.ne_zero_of_lt enough)
      rw [List.map_cons, List.cons_append,
        readSequence_escapeChar r pos terse c (text_sound text ends.sound)]
      obtain ⟨pos', read⟩ := ih (pos + (escapeChar c).length) fuel (Nat.lt_of_succ_lt_succ enough)
        (literal (scope.flags r.flags) c.toNat :: done)
      refine ⟨pos', read.trans ?_⟩
      simp

theorem itemsOf_literals {flags : Flags} (folding : flags.folding = .full) (text : List Char) :
    itemsOf ((text.map fun c => literal flags c.toNat).reverse ++ []) =
      Grammar.keywordItems text := by
  rw [List.append_nil, itemsOf, List.reverse_reverse]
  induction text with
  | nil => rfl
  | cons c text ih =>
      rw [List.map_cons, List.flatMap_cons, ih, literal, folding]
      rfl

def alternatives (texts : List (List Char)) : List Token :=
  [['|']].intercalate (texts.map (·.map escapeChar))

theorem alternatives_singleton (text : List Char) :
    alternatives [text] = text.map escapeChar := by
  simp [alternatives]

theorem alternatives_cons (text other : List Char) (texts : List (List Char)) :
    alternatives (text :: other :: texts) =
      text.map escapeChar ++ ['|'] :: alternatives (other :: texts) := by
  simp [alternatives]

theorem tokens_alternatives (texts : List (List Char)) (later : List Char) :
    tokens (['|'].intercalate (texts.map escape) ++ later) =
      alternatives texts ++ tokens later := by
  match texts with
  | [] => rfl
  | [text] =>
      rw [alternatives_singleton, ← tokens_escape]
      simp
  | text :: other :: texts =>
      have bar : tokens ('|' :: (['|'].intercalate ((other :: texts).map escape) ++ later)) =
          ['|'] :: tokens (['|'].intercalate ((other :: texts).map escape) ++ later) :=
        tokens_cons (by decide) _
      rw [alternatives_cons, List.append_assoc, List.cons_append, ← tokens_alternatives, ← bar,
        ← tokens_escape]
      simp

theorem alternatives_sound (texts : List (List Char)) (sound : rest.head? ≠ some ['\\']) :
    (alternatives texts ++ rest).head? ≠ some ['\\'] := by
  match texts with
  | [] => exact sound
  | [text] =>
      rw [alternatives_singleton]
      exact text_sound text sound
  | text :: other :: texts =>
      rw [alternatives_cons, List.append_assoc]
      exact text_sound text (by simp)

theorem readChoice_texts (rest : List Token) (fuel : Nat) (terse : scope.verbose = false)
    (inner : scope.top = false) (folding : (scope.flags r.flags).folding = .full)
    (texts : List (List Char)) (given : texts ≠ [])
    (enough : (alternatives texts).length + 1 < fuel) (done : List (List Item)) :
    ∃ pos', (readChoice fuel scope done).run
        { r with rest := alternatives texts ++ [')'] :: rest, pos } =
      .ok (choice .full (done.reverse ++ texts.map Grammar.keywordItems),
        { r with rest := [')'] :: rest, pos := pos' }) := by
  -- One alternative is read at a time; those read so far are held in the reverse order.
  induction texts generalizing fuel done pos with
  | nil => exact absurd rfl given
  | cons text texts ih =>
      obtain ⟨fuel, rfl⟩ := Nat.exists_eq_succ_of_ne_zero (Nat.ne_zero_of_lt enough)
      rw [readChoice, StateT.run_bind]
      cases texts with
      | nil =>
          have ends : Ends ([')'] :: rest) := .inr (.inr rfl)
          rw [alternatives_singleton, List.length_map] at enough
          obtain ⟨pos', read⟩ := readSequence_text r pos fuel (scope.top && done.isEmpty) terse text
            ends (by omega) []
          rw [alternatives_singleton, read, Outcome.ok_bind]
          dsimp only
          rw [StateT.run_bind, StateT.run_get, pure_bind, StateT.run_bind,
            takeIf_of_ne r pos' (by simp), Outcome.ok_bind, itemsOf_literals folding]
          refine ⟨pos', ?_⟩
          simp only [Bool.false_eq_true, if_false, folding, List.reverse_cons, List.map_cons,
            List.map_nil]
          rfl
      | cons other texts =>
          rw [alternatives_cons, List.length_append, List.length_map, List.length_cons] at enough
          have ends : Ends (['|'] :: (alternatives (other :: texts) ++ [')'] :: rest)) :=
            .inr (.inl rfl)
          have sound : (alternatives (other :: texts) ++ [')'] :: rest).head? ≠ some ['\\'] :=
            alternatives_sound _ (by simp)
          obtain ⟨pos', read⟩ := readSequence_text r pos fuel (scope.top && done.isEmpty) terse text
            ends (by omega) []
          obtain ⟨pos'', later⟩ := ih (pos' + 1) fuel (List.cons_ne_nil _ _) (by omega)
            (Grammar.keywordItems text :: done)
          have same : (⟨false, scope.verbose, scope.flags⟩ : Scope) = scope := by rw [← inner]
          rw [alternatives_cons, List.append_assoc, List.cons_append, read, Outcome.ok_bind]
          dsimp only
          rw [StateT.run_bind, StateT.run_get, pure_bind, StateT.run_bind,
            takeIf_run r pos' '|' sound, Outcome.ok_bind, itemsOf_literals folding]
          refine ⟨pos'', ?_⟩
          simp only [inner, Bool.false_eq_true, if_true, if_false, same]
          rw [later]
          simp

theorem readSequence_group {piece : Piece} {r' : Reading} (terse : scope.verbose = false)
    (sound : rest.head? ≠ some ['\\'])
    (read : (readGroup fuel scope pos (first && done.isEmpty)).run { r with rest, pos := pos + 1 } =
      .ok (some piece, r')) :
    (readSequence (fuel + 1) scope first done).run { r with rest := ['('] :: rest, pos } =
      (readSequence fuel scope first (piece :: done)).run r' := by
  have taken := take_run r pos ['('] sound
  rw [readSequence, StateT.run_bind, StateT.run_get, pure_bind]
  dsimp only [List.head?_cons]
  rw [if_neg (by simp)]
  simp only [StateT.run_bind, StateT.run_get, pure_bind, taken, Outcome.ok_bind, terse,
    Bool.false_and, Bool.false_eq_true, if_false, List.length_singleton, read]

def title : List Token := ['t', 'i', 't', 'l', 'e'].map ([·])

theorem readGroup_title (fuel : Nat) (scope : Scope) (rest : List Token) (flags : Flags)
    (terse : scope.verbose = false) (folding : (scope.flags flags).folding = .full)
    (texts : List (List Char)) (given : texts ≠ []) (sound : rest.head? ≠ some ['\\'])
    (enough : (alternatives texts).length + 2 < fuel) (start : Nat) (allowed : Bool) :
    ∃ pos' width, (readGroup fuel scope start allowed).run
        ⟨['?'] :: ['P'] :: ['<'] :: (title ++ ['>'] ::
          (alternatives texts ++ [')'] :: rest)), pos, flags, [], [], none, []⟩ =
      .ok (some (plain (.group 1 (Node.ofItems (choice .full (texts.map Grammar.keywordItems))))),
        ⟨rest, pos', flags, [some width], [("title", 1)], none, []⟩) := by
  obtain ⟨fuel, rfl⟩ := Nat.exists_eq_succ_of_ne_zero (Nat.ne_zero_of_lt enough)
  let before : Reading := ⟨[], 0, flags, [], [], none, []⟩
  let within : Reading := ⟨[], 0, flags, [none], [("title", 1)], none, []⟩
  have after : (alternatives texts ++ [')'] :: rest).head? ≠ some ['\\'] :=
    alternatives_sound texts (by simp)
  -- The steps of reading a group with a name, each run from where the last one stopped.
  have opened : (readGroup (fuel + 1) scope start allowed).run
      ⟨['?'] :: ['P'] :: ['<'] :: (title ++ ['>'] ::
        (alternatives texts ++ [')'] :: rest)), pos, flags, [], [], none, []⟩ =
    (do
      let name ← takeName '>' "group name"
      checkGroupName name
      let index ← openGroup (some name)
      let items ← readChoice fuel scope.inner []
      expectClose start
      closeGroup index (Node.ofItems items)
      return some (plain (.group index (Node.ofItems items))) : Reader (Option Piece)).run
        { before with
          rest := title ++ ['>'] :: (alternatives texts ++ [')'] :: rest)
          pos := pos + 3 } := rfl
  have name : (takeName '>' "group name").run { before with
        rest := title ++ ['>'] :: (alternatives texts ++ [')'] :: rest)
        pos := pos + 3 } =
      .ok ("title",
        { before with rest := alternatives texts ++ [')'] :: rest, pos := pos + 9 }) := by
    rw [takeName, StateT.run_bind, StateT.run_get, pure_bind, title,
      takeUntil_run before _ (by decide) (by decide) after (by simp) (by simp)]
    rfl
  have known : (checkGroupName "title").run
      { before with rest := alternatives texts ++ [')'] :: rest, pos := pos + 9 } =
      .ok ((), { before with rest := alternatives texts ++ [')'] :: rest, pos := pos + 9 }) := rfl
  have index : (openGroup (some "title")).run
      { before with rest := alternatives texts ++ [')'] :: rest, pos := pos + 9 } =
      .ok (1, { within with rest := alternatives texts ++ [')'] :: rest, pos := pos + 9 }) := rfl
  have quiet : scope.inner.verbose = false := terse
  obtain ⟨pos', read⟩ := readChoice_texts within (pos + 9) rest fuel quiet rfl folding texts given
    (by omega) []
  have closed : (expectClose start).run { within with rest := [')'] :: rest, pos := pos' } =
      .ok ((), { within with rest, pos := pos' + 1 }) := by
    rw [expectClose, StateT.run_bind, takeIf_run within pos' ')' sound]
    rfl
  rw [opened]
  simp only [StateT.run_bind, name, known, index, read, closed, Outcome.ok_bind]
  exact ⟨_, _, rfl⟩

end Reading

/-! ### Faults of a whole pattern -/

theorem fault?_ofList {nodes : List Node} {template : Bool}
    (sound : ∀ node ∈ nodes, node.fault? template = none) :
    (Node.ofList nodes).fault? template = none := by
  induction nodes with
  | nil => rfl
  | cons node nodes ih =>
      obtain ⟨own, others⟩ := List.forall_mem_cons.mp sound
      cases nodes with
      | nil => exact own
      | cons second nodes =>
          rw [Node.ofList, Node.fault?, own, ih others]
          · rfl
          · exact List.cons_ne_nil _ _

theorem fault?_anyOf {nodes : List Node} {template : Bool}
    (sound : ∀ node ∈ nodes, node.fault? template = none) :
    (Node.anyOf nodes).fault? template = none := by
  induction nodes with
  | nil => rfl
  | cons node nodes ih =>
      obtain ⟨own, others⟩ := List.forall_mem_cons.mp sound
      cases nodes with
      | nil => exact own
      | cons second nodes =>
          rw [Node.anyOf, Node.fault?, own, ih others]
          · rfl
          · exact List.cons_ne_nil _ _

end Pattern

namespace Grammar

open Pattern

theorem fault?_keywordItems (keyword : List Char) :
    ∀ item ∈ keywordItems keyword, item.node.fault? false = none := by
  intro item listed
  obtain ⟨c, _, rfl⟩ := List.mem_map.mp listed
  rfl

theorem fault?_ofItems {items : List Item} (sound : ∀ item ∈ items, item.node.fault? false = none) :
    (Node.ofItems items).fault? false = none := by
  refine fault?_ofList fun node listed => ?_
  obtain ⟨item, member, rfl⟩ := List.mem_map.mp listed
  exact sound item member

theorem IsChoice.fault?_eq {words : List (List Char)} {items : List Item}
    (made : IsChoice words items) : (Node.ofItems items).fault? false = none := by
  refine fault?_ofItems fun item listed => ?_
  cases made with
  | alone word => exact fault?_keywordItems word item listed
  | letters start letters longest =>
      rcases List.mem_append.mp listed with own | last
      · exact fault?_keywordItems start item own
      · rw [List.mem_singleton.mp last]
        rfl
  | tails start tails longest several =>
      rcases List.mem_append.mp listed with own | last
      · exact fault?_keywordItems start item own
      · rw [List.mem_singleton.mp last]
        refine fault?_anyOf fun node member => ?_
        obtain ⟨tail, _, rfl⟩ := List.mem_map.mp member
        exact fault?_ofItems (fault?_keywordItems tail)

theorem fault?_noteNode {keywords : List (List Char)} (given : keywords ≠ []) :
    (noteNode keywords).fault? false = none := by
  have group := (isChoice_choice given).fault?_eq
  refine fault?_ofList fun node listed => ?_
  simp only [List.mem_cons, List.not_mem_nil, or_false] at listed
  rcases listed with rfl | rfl | rfl | rfl | rfl
  · rfl
  · rfl
  · exact group
  · rfl
  · rfl

/-! ### The text of the pattern -/

def noteStart : String := "^[\\s|*]*(?P<title>"

def noteEnd : String := ")[:\\s]+(?P<text>.*)"

def noteText (keywords : List String) : String :=
  noteStart ++
    "|".intercalate (keywords.map fun keyword => String.ofList (escape keyword.toList)) ++ noteEnd

def opening : List Token :=
  [['^'], ['['], ['\\', 's'], ['|'], ['*'], [']'], ['*'], ['('], ['?'], ['P'], ['<'], ['t'], ['i'],
    ['t'], ['l'], ['e'], ['>']]

def closing : List Token :=
  [['['], [':'], ['\\', 's'], [']'], ['+'], ['('], ['?'], ['P'], ['<'], ['t'], ['e'], ['x'], ['t'],
    ['>'], ['.'], ['*'], [')']]

theorem toList_keywords (keywords : List String) :
    ("|".intercalate (keywords.map fun keyword => String.ofList (escape keyword.toList))).toList =
      ['|'].intercalate ((keywords.map String.toList).map escape) := by
  have bar : "|".toList = ['|'] := by decide +kernel
  rw [String.toList_intercalate, bar, List.map_map, List.map_map]
  refine congrArg _ (List.map_congr_left fun keyword _ => ?_)
  exact String.toList_ofList

theorem tokens_opening (rest : List Char) :
    tokens (['^', '[', '\\', 's', '|', '*', ']', '*', '(', '?', 'P', '<', 't', 'i', 't', 'l', 'e',
      '>'] ++ rest) = opening ++ tokens rest := by
  have last : tokens ('>' :: rest) = ['>'] :: tokens rest := tokens_cons (by decide) rest
  rw [opening]
  simp only [List.cons_append, List.nil_append, ← last]
  rfl

theorem tokens_noteText (keywords : List String) :
    tokens (noteText keywords).toList =
      opening ++ (alternatives (keywords.map String.toList) ++ [')'] :: closing) := by
  have before : noteStart.toList = ['^', '[', '\\', 's', '|', '*', ']', '*', '(', '?', 'P', '<',
      't', 'i', 't', 'l', 'e', '>'] := by
    decide +kernel
  have after : tokens noteEnd.toList = [')'] :: closing := by decide +kernel
  rw [noteText, String.toList_append, String.toList_append, List.append_assoc, toList_keywords,
    before, tokens_opening, tokens_alternatives, after]

theorem readSequence_opening (fuel : Nat) (rest : List Token) :
    (readSequence (fuel + 3) ⟨true, false, id⟩ true []).run
        ⟨opening ++ rest, 0, { ignoreCase := true }, [], [], none, []⟩ =
      (readSequence fuel ⟨true, false, id⟩ true
          [.item ⟨.many leadTest 0 none .greedy, .repetition⟩, place .textStart]).run
        ⟨['('] :: ['?'] :: ['P'] :: ['<'] :: (title ++ ['>'] :: rest),
          8, { ignoreCase := true }, [], [], none, []⟩ := rfl

theorem readSequence_closing (fuel pos : Nat) (width : Nat × Nat) (done : List Piece) :
    (readSequence (fuel + 9) ⟨true, false, id⟩ true done).run
        ⟨closing, pos, { ignoreCase := true }, [some width], [("title", 1)], none, []⟩ =
      .ok (plain (.group 2 (.many .inLine 0 none .greedy)) ::
          .item ⟨.many gapTest 1 none .greedy, .repetition⟩ :: done,
        ⟨[], pos + 18, { ignoreCase := true }, [some width, some (0, 4294967295)],
          [("title", 1), ("text", 2)], none, []⟩) := rfl

def noteItems (texts : List (List Char)) : List Item :=
  [⟨.stand .textStart, .place⟩, ⟨.many leadTest 0 none .greedy, .repetition⟩,
    ⟨.group 1 (Node.ofItems (choice .full (texts.map keywordItems))), .plain⟩,
    ⟨.many gapTest 1 none .greedy, .repetition⟩,
    ⟨.group 2 (.many .inLine 0 none .greedy), .plain⟩]

theorem readChoice_noteText (texts : List (List Char)) (given : texts ≠ []) (fuel : Nat)
    (enough : (alternatives texts).length + 20 < fuel) :
    ∃ pos width, (readChoice fuel ⟨true, false, id⟩ []).run
        ⟨opening ++ (alternatives texts ++ [')'] :: closing), 0, { ignoreCase := true }, [], [], none,
          []⟩ =
      .ok (noteItems texts, ⟨[], pos, { ignoreCase := true }, [some width, some (0, 4294967295)],
        [("title", 1), ("text", 2)], none, []⟩) := by
  obtain ⟨fuel, rfl⟩ : ∃ n, fuel = n + 10 + 4 := ⟨fuel - 14, by omega⟩
  have after : (['?'] :: ['P'] :: ['<'] :: (title ++ ['>'] ::
      (alternatives texts ++ [')'] :: closing))).head? ≠ some ['\\'] := by simp
  obtain ⟨pos, width, group⟩ := readGroup_title 9 (fuel + 9) ⟨true, false, id⟩ closing
    { ignoreCase := true } rfl rfl texts given (by decide) (by omega) 8 false
  have sequence := readSequence_opening (fuel + 10) (alternatives texts ++ [')'] :: closing)
  rw [readSequence_group ⟨[], 0, { ignoreCase := true }, [], [], none, []⟩ 8 rfl after group,
    readSequence_closing] at sequence
  refine ⟨pos + 18, width, ?_⟩
  rw [readChoice, StateT.run_bind]
  change (readSequence (fuel + 10 + 3) ⟨true, false, id⟩ true []).run _ >>= _ = _
  rw [sequence]
  rfl

/-- The text of the pattern for notes is read as that pattern: a keyword stands for itself, whatever
characters it has. -/
theorem read_noteText {keywords : List String} (given : keywords ≠ []) :
    Regex.read (noteText keywords) { ignoreCase := true } =
      .ok { notePattern keywords with source := noteText keywords } := by
  have texts : keywords.map String.toList ≠ [] := by simpa using given
  obtain ⟨pos, width, read⟩ := readChoice_noteText (keywords.map String.toList) texts
    (4 * (tokens (noteText keywords).toList).length + 4) (by
      rw [tokens_noteText]
      simp only [List.length_append, List.length_cons, opening, closing, List.length_nil]
      omega)
  have whole : (readPattern (tokens (noteText keywords).toList).length).run
      { rest := tokens (noteText keywords).toList, pos := 0, flags := { ignoreCase := true } } =
      .ok (noteNode (keywords.map String.toList), ⟨[], pos, { ignoreCase := true },
        [some width, some (0, 4294967295)], [("title", 1), ("text", 2)], none, []⟩) := by
    rw [tokens_noteText] at read ⊢
    have starts : refuseDangling.run
        ⟨opening ++ (alternatives (keywords.map String.toList) ++ [')'] :: closing), 0,
          { ignoreCase := true }, [], [], none, []⟩ =
        .ok ((), ⟨opening ++ (alternatives (keywords.map String.toList) ++ [')'] :: closing), 0,
          { ignoreCase := true }, [], [], none, []⟩) := rfl
    rw [readPattern, StateT.run_bind, starts, Outcome.ok_bind]
    dsimp only
    rw [StateT.run_bind, StateT.run_get, pure_bind, StateT.run_bind, read]
    rfl
  have sound := fault?_noteNode texts
  simp only [Regex.read, whole, Outcome.ok_bind, sound]
  rfl

/-! ### Lines that start notes -/

theorem compileNote_texts {keywords : List String} (given : keywords ≠ []) :
    compileNote (texts keywords) = .ok (some (notePattern keywords)) := by
  have truthy : (texts keywords).truthy = true := by
    simpa [texts, Value.truthy] using given
  have each : (keywords.map Value.text).mapM textOf = .ok keywords := by
    rw [Outcome.mapM_eq_ok, List.forall₂_map_left_iff, List.forall₂_same]
    exact fun keyword _ => rfl
  rw [compileNote, truthy]
  change ((keywords.map Value.text).mapM textOf >>= fun names =>
    pure (some (notePattern names))) = _
  rw [each]
  rfl

/-- The pattern for notes is read from a text in which the keywords stand for themselves. It matches
a line just if one of them, up to case, comes first after the blanks, bars and stars, and a colon or
blank after that. The title is what the line has for the first such keyword, and the text is what
follows the colons and blanks. -/
theorem compileNote_announced {keywords : List String} (given : keywords ≠ [])
    (opens : ∀ keyword ∈ keywords, (keyword.toList.head?.any fun c => !isLead c) = true) :
    ∃ p, compileNote (texts keywords) = .ok (some p) ∧
      Regex.read (noteText keywords) { ignoreCase := true } =
        .ok { p with source := noteText keywords } ∧
      ∀ line, '\n' ∉ line →
        p.match? line =
          ((heard (keywords.map String.toList)).find? fun keyword =>
            Announces (line.dropWhile isLead) keyword).map fun keyword =>
              [some ((line.dropWhile isLead).take keyword.length),
                some (((line.dropWhile isLead).drop keyword.length).dropWhile isGap)] :=
  ⟨notePattern keywords, compileNote_texts given, read_noteText given, fun _ single =>
    match?_notePattern given opens single⟩

/-- Of two keywords that both fit the first one counts, and its signs stand for themselves. -/
theorem compileNote_announced_signs :
    ∃ p, compileNote (texts ["a.b(1)", "A", "a.b"]) = .ok (some p) ∧
      p.match? "\t* A.B(1) :: x: y".toList = some [some "A.B(1)".toList, some "x: y".toList] ∧
      p.match? "| a: x".toList = some [some "a".toList, some "x".toList] ∧
      p.match? "acb: x".toList = none := by
  have given : ["a.b(1)", "A", "a.b"] ≠ [] := List.cons_ne_nil _ _
  obtain ⟨p, made, _, lines⟩ := compileNote_announced given (by decide +kernel)
  rw [heard_eq_self (by decide +kernel)] at lines
  refine ⟨p, made, ?_, ?_, ?_⟩
  · rw [lines _ (by decide +kernel)]
    decide +kernel
  · rw [lines _ (by decide +kernel)]
    decide +kernel
  · rw [lines _ (by decide +kernel)]
    decide +kernel

/-- A keyword that is a capital beyond the basic plane is not found beside another letter, although
the line starts with it. By itself it is found. -/
theorem compileNote_farCapital :
    (∀ keyword ∈ ["𐐀", "b"], (keyword.toList.head?.any fun c => !isLead c) = true) ∧
      '\n' ∉ "𐐀: x".toList ∧
      Announces ("𐐀: x".toList.dropWhile isLead) "𐐀".toList ∧
      (∃ p, compileNote (texts ["𐐀", "b"]) = .ok (some p) ∧ p.match? "𐐀: x".toList = none) ∧
      ∃ p, compileNote (texts ["𐐀"]) = .ok (some p) ∧
        p.match? "𐐀: x".toList = some [some "𐐀".toList, some "x".toList] := by
  have both : ["𐐀", "b"] ≠ [] := List.cons_ne_nil _ _
  have one : ["𐐀"] ≠ [] := List.cons_ne_nil _ _
  refine ⟨by decide +kernel, by decide +kernel, by decide +kernel, ?_, ?_⟩
  · exact ⟨_, compileNote_texts both, by decide +kernel⟩
  · exact ⟨_, compileNote_texts one, by decide +kernel⟩

end Grammar

end ReleaseAdvisor
