import Mathlib.Data.List.Forall2
import ReleaseAdvisor.Commit.Input
import ReleaseAdvisor.Proofs.Json.Document

/-!
Commits listed as text. A text lists the items of the JSON array that it is, blanks around it aside;
any other text lists its messages between zero characters. Which of the two it is does not depend on
its first and last characters, and what version control writes is never an array, for a document
has no zero character.
-/

namespace ReleaseAdvisor

open Outcome

namespace Json

theorem isBlank_of_isSpace {c : Char} (space : isSpace c = true) : Text.isBlank c = true := by
  simp only [isSpace, Bool.or_eq_true, beq_iff_eq] at space
  rcases space with ((rfl | rfl) | rfl) | rfl <;> decide

theorem Writes.brackets {w : List Char} {items : List Value} (writes : Writes w (.list items)) :
    ∃ inner, w = '[' :: (inner ++ [']']) := by
  generalize written : Value.list items = v at writes
  cases writes with
  | word listed =>
      subst written
      simp [words] at listed
  | number n =>
      rw [Numeral.value] at written
      split at written <;> cases written
  | text spells => cases written
  | emptyList blanks => exact ⟨_, rfl⟩
  | list more each => exact ⟨_, rfl⟩
  | emptyMapping blanks => cases written
  | mapping more each => cases written

theorem IsDocument.brackets {cs : List Char} {items : List Value}
    (document : IsDocument cs (.list items)) (first : ∀ c ∈ cs.head?, Text.isBlank c = false)
    (last : ∀ c ∈ cs.getLast?, Text.isBlank c = false) :
    cs.head? = some '[' ∧ cs.getLast? = some ']' := by
  obtain ⟨i, writes, rfl, same⟩ := document
  rw [← same] at writes
  obtain ⟨inner, bare⟩ := writes.brackets
  have front : i.front = [] := by
    cases start : i.front with
    | nil => rfl
    | cons c front =>
        have blank := isBlank_of_isSpace (i.front_blanks c (by simp [start]))
        rw [first c (by simp [Item.source, start])] at blank
        cases blank
  have back : i.back = [] := by
    rcases List.eq_nil_or_concat i.back with none | ⟨back, c, finish⟩
    · exact none
    · rw [List.concat_eq_append] at finish
      have blank := isBlank_of_isSpace (i.back_blanks c (by simp [finish]))
      rw [last c (by simp [Item.source, finish])] at blank
      cases blank
  rw [Item.source, front, back, bare, List.nil_append, List.append_nil]
  exact ⟨rfl, by rw [← List.cons_append, List.getLast?_concat]⟩

theorem IsDocument.zero_not_mem {cs : List Char} {v : Value} (document : IsDocument cs v) :
    Char.ofNat 0 ∉ cs := by
  intro inside
  rcases document.isShown _ inside with space | visible
  · revert space
    decide
  · revert visible
    decide

end Json

namespace Submission

/-! ### Arrays -/

def Refuses {α : Type} (limit : Option Nat) (outcome : Except Failure α) : Prop :=
  ∃ digits, limit.any (· < digits) = true ∧ outcome = .error (.refusal (.hugeNumber digits))

theorem items?_of_document {cs : List Char} {items : List Value}
    (document : Json.IsDocument (Text.strip cs) (.list items)) (limit : Option Nat) :
    items? cs limit = .ok (some items) ∨ Refuses limit (items? cs limit) := by
  obtain ⟨_, _, _, _, _, first, last⟩ := Text.exists_trimChars Text.isBlank cs
  obtain ⟨opens, closes⟩ := document.brackets first last
  have bracketed : ((Text.strip cs).head? == some '[' && (Text.strip cs).getLast? == some ']') =
      true := by
    rw [opens, closes]
    rfl
  unfold items?
  simp only [bracketed, if_true]
  rcases document.reads limit with read | ⟨digits, left, refused⟩
  · rw [read]
    exact .inl rfl
  · have exceeds := Json.readDocument_failsOnly limit _ _ refused digits rfl
    rw [refused]
    exact .inr ⟨digits, exceeds, rfl⟩

theorem items?_of_no_document {cs : List Char}
    (other : ∀ items, ¬Json.IsDocument (Text.strip cs) (.list items)) (limit : Option Nat) :
    items? cs limit = .ok none ∨ Refuses limit (items? cs limit) := by
  unfold items?
  dsimp only
  -- With brackets or without, only a document of a list could have been read as one.
  split
  · split
    · rename_i items read
      exact absurd (Json.isDocument_of_read read) (other items)
    · rename_i digits left refused
      exact .inr ⟨digits, Json.readDocument_failsOnly limit _ _ refused digits rfl, rfl⟩
    · exact .inl rfl
  · exact .inl rfl

theorem readAll_of_refuses {text : String} {limit : Option Nat}
    (refuses : Refuses limit (items? text.toList limit)) : Refuses limit (readAll text limit) := by
  obtain ⟨digits, exceeds, refused⟩ := refuses
  refine ⟨digits, exceeds, ?_⟩
  rw [readAll, refused]
  rfl

/-! ### Messages between zero characters -/

/-- The part of a text stands for the commit: its message is the part without line feeds at the two
ends. -/
inductive Stands : List Char → Submission → Prop where
  | message {message : List Char} (before after : Nat) (first : message.head? ≠ some '\n')
      (last : message.getLast? ≠ some '\n') :
      Stands (List.replicate before '\n' ++ message ++ List.replicate after '\n')
        ⟨.text (String.ofList message), .text "", false⟩

theorem Stands.of_trim (part : List Char) :
    Stands part ⟨.text (String.ofList (Text.trimChars (· == '\n') part)), .text "", false⟩ := by
  obtain ⟨front, back, whole, fronts, backs, first, last⟩ :=
    Text.exists_trimChars (· == '\n') part
  have feeds {cs : List Char} (each : ∀ c ∈ cs, (c == '\n') = true) :
      cs = List.replicate cs.length '\n' :=
    List.eq_replicate_iff.mpr ⟨rfl, fun c inside => beq_iff_eq.mp (each c inside)⟩
  generalize Text.trimChars (· == '\n') part = message at *
  rw [whole, feeds fronts, feeds backs]
  refine .message _ _ (fun same => ?_) (fun same => ?_)
  · cases first _ same
  · cases last _ same

theorem chunks_join {parts : List (List Char)} (some : parts ≠ [])
    (whole : ∀ part ∈ parts, Char.ofNat 0 ∉ part) :
    chunks (Text.join [Char.ofNat 0] parts) =
      (parts.filter fun part => !Text.blank part).map fun part =>
        ⟨.text (String.ofList (Text.trimChars (· == '\n') part)), .text "", false⟩ := by
  have uncut : ∀ part ∈ parts, ∀ c ∈ part, (c == Char.ofNat 0) = false := by
    intro part listed c inside
    rw [beq_eq_false_iff_ne]
    rintro rfl
    exact whole part listed inside
  rw [chunks, Text.splitAt_join some uncut (beq_self_eq_true _)]

theorem forall₂_stands (parts : List (List Char)) :
    List.Forall₂ Stands parts (parts.map fun part =>
      ⟨.text (String.ofList (Text.trimChars (· == '\n') part)), .text "", false⟩) := by
  induction parts with
  | nil => exact .nil
  | cons part parts ih => exact .cons (.of_trim part) ih

/-! ### Every text -/

/-- What is read from a text: the items of the array that it is, or a report if one of them can be
no commit; and from any other text its messages that are not blank. -/
structure Lists (cs : List Char) (outcome : Except Failure (List Submission)) : Prop where
  array : ∀ items, Json.IsDocument (Text.strip cs) (.list items) →
    (∀ item ∈ items, (∃ s, item = .text s) ∨ ∃ entries, item = .mapping entries) →
      ∃ submissions, outcome = .ok submissions ∧
        List.Forall₂ (fun item s => ofValue item = .ok s) items submissions
  fault : ∀ items, Json.IsDocument (Text.strip cs) (.list items) →
    (∃ item ∈ items, (∀ s, item ≠ .text s) ∧ ∀ entries, item ≠ .mapping entries) →
      ∃ r, outcome = .error (.report r) ∧ r.code = .commitsInvalid
  messages : (∀ items, ¬Json.IsDocument (Text.strip cs) (.list items)) →
    ∃ parts submissions, parts ≠ [] ∧ (∀ part ∈ parts, Char.ofNat 0 ∉ part) ∧
      cs = Text.join [Char.ofNat 0] parts ∧ outcome = .ok submissions ∧
        List.Forall₂ Stands (parts.filter fun part => !Text.blank part) submissions

theorem isEntry_iff (item : Value) :
    isEntry item = true ↔ (∃ s, item = .text s) ∨ ∃ entries, item = .mapping entries := by
  cases item <;> simp [isEntry]

theorem exists_mapM_ofValue {items : List Value} (each : ∀ item ∈ items, isEntry item = true) :
    ∃ submissions, items.mapM ofValue = .ok submissions ∧
      List.Forall₂ (fun item s => ofValue item = .ok s) items submissions := by
  induction items with
  | nil => exact ⟨[], rfl, .nil⟩
  | cons item items ih =>
      obtain ⟨entry, others⟩ := List.forall_mem_cons.mp each
      obtain ⟨submissions, rest, pairs⟩ := ih others
      have first : ∃ s, ofValue item = .ok s := by
        rcases (isEntry_iff item).mp entry with ⟨s, rfl⟩ | ⟨entries, rfl⟩
        · exact ⟨_, rfl⟩
        · exact ⟨_, rfl⟩
      obtain ⟨s, first⟩ := first
      refine ⟨s :: submissions, ?_, .cons first pairs⟩
      rw [List.mapM_cons, first, rest]
      rfl

theorem lists_or_refuses (text : String) (limit : Option Nat) :
    Lists text.toList (readAll text limit) ∨ Refuses limit (readAll text limit) := by
  by_cases document : ∃ items, Json.IsDocument (Text.strip text.toList) (.list items)
  · obtain ⟨items, document⟩ := document
    rcases items?_of_document document limit with found | refuses
    · left
      -- A text is a document of one value only, for it is read as one.
      have only : ∀ others, Json.IsDocument (Text.strip text.toList) (.list others) →
          others = items := by
        intro others other
        have read := Json.readDocument_iff.mpr document
        rw [Json.readDocument_iff.mpr other] at read
        cases read
        rfl
      have read : readAll text limit =
          if items.all isEntry then items.mapM ofValue
          else .error (.report .commitsNotEntries) := by
        rw [readAll, found]
        rfl
      refine ⟨fun others other each => ?_, fun others other one => ?_, fun none => ?_⟩
      · cases only others other
        have entries : ∀ item ∈ items, isEntry item = true :=
          fun item listed => (isEntry_iff item).mpr (each item listed)
        rw [read, if_pos (List.all_eq_true.mpr entries)]
        exact exists_mapM_ofValue entries
      · cases only others other
        obtain ⟨item, listed, noText, noMapping⟩ := one
        have faulty : ¬items.all isEntry = true := by
          intro all
          rcases (isEntry_iff item).mp (List.all_eq_true.mp all item listed) with ⟨s, same⟩ |
            ⟨entries, same⟩
          · exact noText s same
          · exact noMapping entries same
        rw [read, if_neg faulty]
        exact ⟨_, rfl, rfl⟩
      · exact absurd document (none items)
    · exact .inr (readAll_of_refuses refuses)
  · rcases items?_of_no_document (fun items other => document ⟨items, other⟩) limit with
      found | refuses
    · left
      refine ⟨fun items other => absurd ⟨items, other⟩ document,
        fun items other => absurd ⟨items, other⟩ document, fun _ => ?_⟩
      obtain ⟨parts, some, whole, written⟩ := Text.exists_parts (Char.ofNat 0) text.toList
      refine ⟨parts, _, some, whole, written, ?_, forall₂_stands _⟩
      rw [readAll, found, ← chunks_join some whole, ← written]
      rfl
    · exact .inr (readAll_of_refuses refuses)

theorem not_refuses_none {α : Type} (outcome : Except Failure α) : ¬Refuses none outcome := by
  rintro ⟨digits, exceeds, _⟩
  cases exceeds

/-- What a text lists is read from it. With a limit to the digits of a whole number, such a number
may be refused instead. -/
theorem readAll_lists (text : String) : Lists text.toList (readAll text none) ∧
    ∀ longest, Lists text.toList (readAll text (some longest)) ∨
      ∃ digits > longest,
        readAll text (some longest) = .error (.refusal (.hugeNumber digits)) := by
  constructor
  · exact (lists_or_refuses text none).resolve_right (not_refuses_none _)
  · intro longest
    refine (lists_or_refuses text (some longest)).imp_right ?_
    rintro ⟨digits, exceeds, refused⟩
    exact ⟨digits, by simpa using exceeds, refused⟩

/-! ### Messages as version control writes them -/

structure IsPlain (message : List Char) : Prop where
  zero_free : Char.ofNat 0 ∉ message
  said : Text.blank message = false
  first : message.head? ≠ some '\n'
  last : message.getLast? ≠ some '\n'

def Padded (message part : List Char) : Prop :=
  ∃ before after : Nat,
    part = List.replicate before '\n' ++ message ++ List.replicate after '\n'

/-- The text holds the parts with a zero character after each; after the last of several it may be
missing. -/
def Terminated (parts : List (List Char)) (cs : List Char) : Prop :=
  cs = parts.flatMap (· ++ [Char.ofNat 0]) ∨
    2 ≤ parts.length ∧ cs ++ [Char.ofNat 0] = parts.flatMap (· ++ [Char.ofNat 0])

theorem Padded.trimChars {message part : List Char} (padded : Padded message part)
    (plain : IsPlain message) : Text.trimChars (· == '\n') part = message := by
  obtain ⟨before, after, rfl⟩ := padded
  have feeds (n : Nat) : ∀ c ∈ List.replicate n '\n', (c == '\n') = true := by
    intro c inside
    rw [List.eq_of_mem_replicate inside]
    rfl
  rw [Text.trimChars_append message (feeds before) (feeds after)]
  refine Text.trimChars_eq_self (fun c first => ?_) (fun c last => ?_)
  · rw [beq_eq_false_iff_ne]
    rintro rfl
    exact plain.first first
  · rw [beq_eq_false_iff_ne]
    rintro rfl
    exact plain.last last

theorem Padded.zero_free {message part : List Char} (padded : Padded message part)
    (plain : IsPlain message) : Char.ofNat 0 ∉ part := by
  obtain ⟨before, after, rfl⟩ := padded
  simp only [List.mem_append, not_or]
  refine ⟨⟨fun inside => ?_, plain.zero_free⟩, fun inside => ?_⟩ <;>
    cases List.eq_of_mem_replicate inside

theorem Padded.said {message part : List Char} (padded : Padded message part)
    (plain : IsPlain message) : Text.blank part = false := by
  obtain ⟨before, after, rfl⟩ := padded
  have said := plain.said
  simp only [Text.blank, List.all_append] at said ⊢
  rw [said, Bool.and_false, Bool.false_and]

theorem ne_nil_of_padded {messages : List String} {parts : List (List Char)}
    (some : messages ≠ []) (padded : List.Forall₂ (fun m part => Padded m.toList part) messages parts) :
    parts ≠ [] := by
  rintro rfl
  cases padded
  exact some rfl

theorem flatMap_terminated {parts : List (List Char)} (some : parts ≠ []) (z : Char) :
    parts.flatMap (· ++ [z]) = Text.join [z] parts ++ [z] ∧
      Text.join [z] (parts ++ [[]]) = Text.join [z] parts ++ [z] := by
  induction parts with
  | nil => exact absurd rfl some
  | cons first rest ih =>
      cases rest with
      | nil => exact ⟨by simp [Text.join], by simp [Text.join]⟩
      | cons second later =>
          obtain ⟨flat, joined⟩ := ih (List.cons_ne_nil _ _)
          constructor
          · rw [List.flatMap_cons, flat, Text.join_cons_cons]
            simp only [List.append_assoc]
          · rw [List.cons_append, List.cons_append, Text.join_cons_cons, Text.join_cons_cons,
              ← List.cons_append, joined]
            simp only [List.append_assoc]

theorem Terminated.exists_join {parts : List (List Char)} {cs : List Char} (some : parts ≠ [])
    (terminated : Terminated parts cs) : Char.ofNat 0 ∈ cs ∧
      (cs = Text.join [Char.ofNat 0] parts ∨ cs = Text.join [Char.ofNat 0] (parts ++ [[]])) := by
  obtain ⟨flat, joined⟩ := flatMap_terminated some (Char.ofNat 0)
  rcases terminated with whole | ⟨several, unclosed⟩
  · have text : cs = Text.join [Char.ofNat 0] (parts ++ [[]]) := by rw [whole, flat, joined]
    refine ⟨?_, .inr text⟩
    rw [text, joined]
    exact List.mem_append_right _ (List.mem_singleton_self _)
  · have text : cs = Text.join [Char.ofNat 0] parts :=
      List.append_cancel_right (unclosed.trans flat)
    refine ⟨?_, .inl text⟩
    obtain ⟨first, rest, rfl⟩ := List.exists_cons_of_ne_nil some
    cases rest with
    | nil => simp at several
    | cons second later =>
        rw [text, Text.join_cons_cons]
        simp

theorem no_document_of_zero {cs : List Char} (zero : Char.ofNat 0 ∈ cs) :
    ∀ v, ¬Json.IsDocument (Text.strip cs) v := by
  intro v document
  obtain ⟨front, back, whole, fronts, backs, _⟩ := Text.exists_trimChars Text.isBlank cs
  have dark : ¬Text.isBlank (Char.ofNat 0) = true := by decide
  rw [whole, List.mem_append, List.mem_append] at zero
  rcases zero with (inside | inside) | inside
  · exact dark (fronts _ inside)
  · exact document.zero_not_mem inside
  · exact dark (backs _ inside)

theorem chunks_terminated {messages : List String} {parts : List (List Char)} {cs : List Char}
    (some : messages ≠ []) (plain : ∀ m ∈ messages, IsPlain m.toList)
    (padded : List.Forall₂ (fun m part => Padded m.toList part) messages parts)
    (terminated : Terminated parts cs) :
    chunks cs = messages.map fun m => ⟨.text m, .text "", false⟩ := by
  have more := ne_nil_of_padded some padded
  have whole : ∀ part ∈ parts, Char.ofNat 0 ∉ part := by
    clear terminated some more
    induction padded with
    | nil => exact List.forall_mem_nil _
    | cons first later ih =>
        obtain ⟨head, tail⟩ := List.forall_mem_cons.mp plain
        exact List.forall_mem_cons.mpr ⟨first.zero_free head, ih tail⟩
  have read : (parts.filter fun part => !Text.blank part).map (fun part =>
      (⟨.text (String.ofList (Text.trimChars (· == '\n') part)), .text "", false⟩ : Submission)) =
      messages.map fun m => ⟨.text m, .text "", false⟩ := by
    clear terminated some more whole
    induction padded with
    | nil => rfl
    | @cons m part messages parts first later ih =>
        obtain ⟨head, tail⟩ := List.forall_mem_cons.mp plain
        rw [List.filter_cons_of_pos (by simp [first.said head]), List.map_cons, ih tail,
          first.trimChars head, String.ofList_toList]
        rfl
  rcases (terminated.exists_join more).2 with rfl | rfl
  · rw [chunks_join more whole, read]
  · have none : Text.blank [] = true := rfl
    rw [chunks_join (by simp), List.filter_append, List.filter_cons_of_neg (by simp [none]),
      List.filter_nil, List.append_nil, read]
    intro part listed
    rcases List.mem_append.mp listed with listed | listed
    · exact whole part listed
    · rw [List.mem_singleton.mp listed]
      exact List.not_mem_nil

/-- Reading undoes writing: messages that version control has written, each with any number of line
feeds around it and a zero character after it, are read as they were, whatever they look like. With
a limit to the digits of a whole number, what looks like one may be refused instead. -/
theorem readAll_terminated {messages : List String} {parts : List (List Char)} {text : String}
    (some : messages ≠ []) (plain : ∀ m ∈ messages, IsPlain m.toList)
    (padded : List.Forall₂ (fun m part => Padded m.toList part) messages parts)
    (terminated : Terminated parts text.toList) :
    readAll text none = .ok (messages.map fun m => ⟨.text m, .text "", false⟩) ∧
    ∀ longest,
      readAll text (.some longest) = .ok (messages.map fun m => ⟨.text m, .text "", false⟩) ∨
        ∃ digits > longest,
          readAll text (.some longest) = .error (.refusal (.hugeNumber digits)) := by
  have more := ne_nil_of_padded some padded
  have other := no_document_of_zero (terminated.exists_join more).1
  have read (limit : Option Nat) :
      readAll text limit = .ok (messages.map fun m => ⟨.text m, .text "", false⟩) ∨
        Refuses limit (readAll text limit) := by
    rcases items?_of_no_document (fun items => other (.list items)) limit with found | refuses
    · left
      rw [readAll, found, ← chunks_terminated some plain padded terminated]
      rfl
    · exact .inr (readAll_of_refuses refuses)
  constructor
  · exact (read none).resolve_right (not_refuses_none _)
  · intro longest
    refine (read (.some longest)).imp_right ?_
    rintro ⟨digits, exceeds, refused⟩
    exact ⟨digits, by simpa using exceeds, refused⟩

theorem readAll_terminated_brackets :
    IsPlain "[BUGFIX beta] Fix crash".toList ∧ IsPlain "Fix [#123]".toList ∧
      Terminated ["\n[BUGFIX beta] Fix crash\n".toList, "Fix [#123]".toList]
        "\n[BUGFIX beta] Fix crash\n\x00Fix [#123]".toList ∧
      readAll "\n[BUGFIX beta] Fix crash\n\x00Fix [#123]" none =
        .ok [⟨.text "[BUGFIX beta] Fix crash", .text "", false⟩,
          ⟨.text "Fix [#123]", .text "", false⟩] := by
  have first : IsPlain "[BUGFIX beta] Fix crash".toList :=
    ⟨by decide +kernel, by decide +kernel, by decide +kernel, by decide +kernel⟩
  have second : IsPlain "Fix [#123]".toList :=
    ⟨by decide +kernel, by decide +kernel, by decide +kernel, by decide +kernel⟩
  have terminated : Terminated ["\n[BUGFIX beta] Fix crash\n".toList, "Fix [#123]".toList]
      "\n[BUGFIX beta] Fix crash\n\x00Fix [#123]".toList :=
    .inr ⟨Nat.le_refl 2, by decide +kernel⟩
  have padded : List.Forall₂ (fun (m : String) part => Padded m.toList part)
      ["[BUGFIX beta] Fix crash", "Fix [#123]"]
      ["\n[BUGFIX beta] Fix crash\n".toList, "Fix [#123]".toList] :=
    .cons ⟨1, 1, by decide +kernel⟩ (.cons ⟨0, 0, by decide +kernel⟩ .nil)
  have plain : ∀ m ∈ ["[BUGFIX beta] Fix crash", "Fix [#123]"], IsPlain (String.toList m) :=
    List.forall_mem_cons.mpr ⟨first, List.forall_mem_singleton.mpr second⟩
  refine ⟨first, second, terminated, ?_⟩
  exact (readAll_terminated (by simp) plain padded terminated).1

end Submission

end ReleaseAdvisor
