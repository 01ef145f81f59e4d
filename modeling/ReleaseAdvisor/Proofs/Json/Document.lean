import ReleaseAdvisor.Proofs.Json.Number

/-!
JSON documents. A text is read as a value exactly if it is that value written as the grammar says,
with blanks around it. A limit to the digits of whole numbers changes nothing else.
-/

namespace ReleaseAdvisor.Json

open Outcome

/-! ### The grammar -/

structure Item where
  front : List Char
  written : List Char
  back : List Char
  value : Value
  front_blanks : Blanks front
  back_blanks : Blanks back

structure Member where
  before : List Char
  name : List Char
  spelled : List Char
  after : List Char
  item : Item
  before_blanks : Blanks before
  name_spells : Spells name spelled
  after_blanks : Blanks after

def Item.source (i : Item) : List Char := i.front ++ (i.written ++ i.back)

def Member.source (m : Member) : List Char :=
  m.before ++ '"' :: (m.name ++ '"' :: (m.after ++ ':' :: m.item.source))

def Member.entry (m : Member) : Value × Value := (.text (String.ofList m.spelled), m.item.value)

/-- The text writes the value. Of members with one name the last one counts, in the place of the
first. -/
inductive Writes : List Char → Value → Prop where
  | word {word : List Char} {v : Value} (listed : (word, v) ∈ words) : Writes word v
  | number (n : Numeral) : Writes n.source n.value
  | text {source spelled : List Char} (spells : Spells source spelled) :
      Writes ('"' :: (source ++ ['"'])) (.text (String.ofList spelled))
  | emptyList {gap : List Char} (blanks : Blanks gap) : Writes ('[' :: (gap ++ [']'])) (.list [])
  | list {items : List Item} (some : items ≠ []) (each : ∀ i ∈ items, Writes i.written i.value) :
      Writes ('[' :: (Text.join [','] (items.map Item.source) ++ [']']))
        (.list (items.map Item.value))
  | emptyMapping {gap : List Char} (blanks : Blanks gap) :
      Writes ('{' :: (gap ++ ['}'])) (.mapping [])
  | mapping {members : List Member} (some : members ≠ [])
      (each : ∀ m ∈ members, Writes m.item.written m.item.value) :
      Writes ('{' :: (Text.join [','] (members.map Member.source) ++ ['}']))
        (.mapping (Entries.putAll [] (members.map Member.entry)))

def IsDocument (cs : List Char) (v : Value) : Prop :=
  ∃ i : Item, Writes i.written i.value ∧ cs = i.source ∧ v = i.value

/-- The number is written somewhere in the text of a value. Texts between quotes hold none. -/
inductive Mentions (n : Numeral) : List Char → Prop where
  | number : Mentions n n.source
  | list {items : List Item} {i : Item} (each : ∀ j ∈ items, Writes j.written j.value)
      (listed : i ∈ items) (within : Mentions n i.written) :
      Mentions n ('[' :: (Text.join [','] (items.map Item.source) ++ [']']))
  | mapping {members : List Member} {m : Member}
      (each : ∀ j ∈ members, Writes j.item.written j.item.value) (listed : m ∈ members)
      (within : Mentions n m.item.written) :
      Mentions n ('{' :: (Text.join [','] (members.map Member.source) ++ ['}']))

def HasNumber (cs : List Char) (n : Numeral) : Prop :=
  ∃ i : Item, cs = i.source ∧ Mentions n i.written

/-! ### Only what the grammar writes is read -/

structure Sound (limit : Option Nat) (fuel : Nat) : Prop where
  value : ∀ cs v rest, readValue limit fuel cs = .ok (v, rest) →
    ∃ w, Writes w v ∧ cs = w ++ rest
  items : ∀ cs values rest, readItems limit fuel (skipSpace cs) = .ok (values, rest) →
    ∃ items : List Item, items ≠ [] ∧ (∀ i ∈ items, Writes i.written i.value) ∧
      values = items.map Item.value ∧
      cs = Text.join [','] (items.map Item.source) ++ ']' :: rest
  members : ∀ cs read entries rest,
    readMembers limit fuel read (skipSpace cs) = .ok (entries, rest) →
    ∃ members : List Member, members ≠ [] ∧
      (∀ m ∈ members, Writes m.item.written m.item.value) ∧
      entries = Entries.putAll read (members.map Member.entry) ∧
      cs = Text.join [','] (members.map Member.source) ++ '}' :: rest

section Sound

variable {limit : Option Nat} {fuel : Nat}

theorem Sound.readValue (sound : Sound limit fuel) {cs rest : List Char} {v : Value}
    (read : readValue limit (fuel + 1) cs = .ok (v, rest)) : ∃ w, Writes w v ∧ cs = w ++ rest := by
  unfold Json.readValue at read
  -- The first character tells texts, arrays and objects from what stands by itself.
  split at read
  · rename_i cs
    obtain ⟨⟨s, after⟩, text, same⟩ := bind_eq_ok.mp read
    cases same
    obtain ⟨source, spelled, spells, rfl, rfl⟩ := startText_eq_ok.mp text
    exact ⟨_, .text spells, by simp⟩
  · rename_i cs
    obtain ⟨gap, blanks, cut⟩ := exists_skipSpace cs
    split at read
    · rename_i after first
      cases read
      exact ⟨_, .emptyList blanks, by rw [cut, first]; simp⟩
    · obtain ⟨⟨values, after⟩, listed, same⟩ := bind_eq_ok.mp read
      cases same
      obtain ⟨items, more, each, rfl, rfl⟩ := sound.items cs _ _ listed
      exact ⟨_, .list more each, by simp⟩
  · rename_i cs
    obtain ⟨gap, blanks, cut⟩ := exists_skipSpace cs
    split at read
    · rename_i after first
      cases read
      exact ⟨_, .emptyMapping blanks, by rw [cut, first]; simp⟩
    · obtain ⟨⟨entries, after⟩, listed, same⟩ := bind_eq_ok.mp read
      cases same
      obtain ⟨members, more, each, rfl, rfl⟩ := sound.members cs _ _ _ listed
      exact ⟨_, .mapping more each, by simp⟩
  · obtain ⟨w, cut, listed | ⟨n, rfl, rfl⟩⟩ := readScalar_eq_ok read
    · exact ⟨w, .word listed, cut⟩
    · exact ⟨_, .number n, cut⟩

theorem Sound.readItems (sound : Sound limit fuel) {cs rest : List Char} {values : List Value}
    (read : readItems limit (fuel + 1) (skipSpace cs) = .ok (values, rest)) :
    ∃ items : List Item, items ≠ [] ∧ (∀ i ∈ items, Writes i.written i.value) ∧
      values = items.map Item.value ∧
      cs = Text.join [','] (items.map Item.source) ++ ']' :: rest := by
  obtain ⟨front, frontBlanks, cut⟩ := exists_skipSpace cs
  rw [Json.readItems] at read
  obtain ⟨⟨v, after⟩, first, read⟩ := bind_eq_ok.mp read
  obtain ⟨w, writes, start⟩ := sound.value _ v after first
  obtain ⟨back, backBlanks, cut'⟩ := exists_skipSpace after
  have whole : cs = front ++ (w ++ (back ++ skipSpace after)) := by
    rw [cut, start, ← cut']
  dsimp only at read
  split at read
  · rename_i later last
    cases read
    refine ⟨[⟨front, w, back, v, frontBlanks, backBlanks⟩], by simp, ?_, rfl, ?_⟩
    · rintro i listed
      rw [List.mem_singleton.mp listed]
      exact writes
    · rw [whole, last]
      simp [Text.join, Item.source]
  · rename_i later comma
    obtain ⟨⟨others, after'⟩, second, same⟩ := bind_eq_ok.mp read
    cases same
    obtain ⟨items, more, each, rfl, rfl⟩ := sound.items later _ _ second
    obtain ⟨i, items, rfl⟩ := List.exists_cons_of_ne_nil more
    refine ⟨⟨front, w, back, v, frontBlanks, backBlanks⟩ :: i :: items, by simp, ?_, rfl, ?_⟩
    · exact List.forall_mem_cons.mpr ⟨writes, each⟩
    · rw [whole, comma]
      simp [Text.join_cons_cons, Item.source]
  · cases read

theorem Sound.readMembers (sound : Sound limit fuel) {cs rest : List Char} {read entries : Entries}
    (done : readMembers limit (fuel + 1) read (skipSpace cs) = .ok (entries, rest)) :
    ∃ members : List Member, members ≠ [] ∧
      (∀ m ∈ members, Writes m.item.written m.item.value) ∧
      entries = Entries.putAll read (members.map Member.entry) ∧
      cs = Text.join [','] (members.map Member.source) ++ '}' :: rest := by
  obtain ⟨before, beforeBlanks, cut⟩ := exists_skipSpace cs
  unfold Json.readMembers at done
  split at done
  · rename_i opened quote
    obtain ⟨⟨s, after⟩, name, done⟩ := bind_eq_ok.mp done
    obtain ⟨source, spelled, spells, rfl, rfl⟩ := startText_eq_ok.mp name
    obtain ⟨gap, gapBlanks, gapCut⟩ := exists_skipSpace after
    dsimp only at done
    split at done
    · rename_i later colon
      obtain ⟨front, frontBlanks, frontCut⟩ := exists_skipSpace later
      obtain ⟨⟨v, left⟩, first, done⟩ := bind_eq_ok.mp done
      obtain ⟨w, writes, start⟩ := sound.value _ v left first
      obtain ⟨back, backBlanks, backCut⟩ := exists_skipSpace left
      let m : Member := ⟨before, source, spelled, gap, ⟨front, w, back, v, frontBlanks, backBlanks⟩,
        beforeBlanks, spells, gapBlanks⟩
      have whole : cs = m.source ++ skipSpace left := by
        rw [cut, quote, gapCut, colon, frontCut, start]
        simp [m, Member.source, Item.source, ← backCut]
      dsimp only at done
      split at done
      · rename_i rest last
        cases done
        refine ⟨[m], by simp, ?_, rfl, ?_⟩
        · rintro other listed
          rw [List.mem_singleton.mp listed]
          exact writes
        · rw [whole, last]
          rfl
      · rename_i others comma
        obtain ⟨members, more, each, rfl, rfl⟩ := sound.members others _ _ _ done
        obtain ⟨second, members, rfl⟩ := List.exists_cons_of_ne_nil more
        refine ⟨m :: second :: members, by simp, ?_, rfl, ?_⟩
        · exact List.forall_mem_cons.mpr ⟨writes, each⟩
        · rw [whole, comma]
          simp [Text.join_cons_cons]
      · cases done
    · cases done
  · cases done

end Sound

theorem sound (limit : Option Nat) (fuel : Nat) : Sound limit fuel := by
  induction fuel with
  | zero =>
      refine ⟨fun cs v rest read => ?_, fun cs values rest read => ?_,
        fun cs read entries rest done => ?_⟩
      · cases read
      · cases read
      · cases done
  | succ fuel ih =>
      exact ⟨fun _ _ _ => ih.readValue, fun _ _ _ => ih.readItems, fun _ _ _ _ => ih.readMembers⟩

/-! ### Faults -/

structure FaultsExceed (limit : Option Nat) (fuel : Nat) : Prop where
  value : ∀ cs, FailsOnly (Stop.Exceeds limit) (readValue limit fuel cs)
  items : ∀ cs, FailsOnly (Stop.Exceeds limit) (readItems limit fuel cs)
  members : ∀ read cs, FailsOnly (Stop.Exceeds limit) (readMembers limit fuel read cs)

theorem faultsExceed (limit : Option Nat) (fuel : Nat) : FaultsExceed limit fuel := by
  induction fuel with
  | zero =>
      exact ⟨fun cs => stop_failsOnly (by simp) cs, fun cs => stop_failsOnly (by simp) cs,
        fun _ cs => stop_failsOnly (by simp) cs⟩
  | succ fuel ih =>
      refine ⟨fun cs => ?_, fun cs => ?_, fun read cs => ?_⟩
      · unfold readValue
        split
        · exact (startText_failsOnly limit _).bind fun _ _ => .ok _
        · split
          · exact .ok _
          · exact (ih.items _).bind fun _ _ => .ok _
        · split
          · exact .ok _
          · exact (ih.members _ _).bind fun _ _ => .ok _
        · exact readScalar_failsOnly limit _
      · rw [readItems]
        refine (ih.value _).bind fun found _ => ?_
        dsimp only
        split
        · exact .ok _
        · exact (ih.items _).bind fun _ _ => .ok _
        · exact stop_failsOnly (by simp) _
      · unfold readMembers
        split
        · refine (startText_failsOnly limit _).bind fun name _ => ?_
          dsimp only
          split
          · refine (ih.value _).bind fun found _ => ?_
            split
            · exact .ok _
            · exact ih.members _ _
            · exact stop_failsOnly (by simp) _
          · exact stop_failsOnly (by simp) _
        · exact stop_failsOnly (by simp) _

/-! ### All that the grammar writes is read -/

def Reads {α : Type} (outcome : Except Stop α) (result : α) : Prop :=
  outcome = .ok result ∨ ∃ digits left, outcome = .error ⟨.hugeNumber digits, left⟩

def ReadsUnless {α : Type} (refused : Nat → Prop) (outcome : Except Stop α) (result : α) : Prop :=
  outcome = .ok result ∨
    ∃ digits left, refused digits ∧ outcome = .error ⟨.hugeNumber digits, left⟩

namespace ReadsUnless

variable {α β : Type} {refused refused' : Nat → Prop}

theorem bind {first : Except Stop α} {next : α → Except Stop β} {a : α} {b : β}
    (head : ReadsUnless refused first a) (tail : ReadsUnless refused (next a) b) :
    ReadsUnless refused (first >>= next) b := by
  rcases head with rfl | ⟨digits, left, known, rfl⟩
  · exact tail
  · exact .inr ⟨digits, left, known, rfl⟩

theorem mono {outcome : Except Stop α} {a : α} (reads : ReadsUnless refused outcome a)
    (weaker : ∀ digits, refused digits → refused' digits) : ReadsUnless refused' outcome a := by
  rcases reads with read | ⟨digits, left, known, failed⟩
  · exact .inl read
  · exact .inr ⟨digits, left, weaker digits known, failed⟩

end ReadsUnless

def IsRefused (limit : Option Nat) (w : List Char) (digits : Nat) : Prop :=
  ∃ n : Numeral, Mentions n w ∧ n.isHuge limit = true ∧ n.whole.length = digits

theorem ends_of_blanks {gap rest : List Char} (blanks : Blanks gap) (ends : Ends rest) :
    Ends (gap ++ rest) := by
  cases gap with
  | nil => exact ends
  | cons c gap =>
      intro d first
      cases first
      have space := blanks c List.mem_cons_self
      simp only [isSpace, Bool.or_eq_true, beq_iff_eq] at space
      rcases space with ((rfl | rfl) | rfl) | rfl <;> decide

theorem ends_mark {c : Char} (mark : c ∈ [',', ']', '}']) (rest : List Char) :
    Ends (c :: rest) := by
  have each : ∀ c ∈ [',', ']', '}'], c.isDigit = false ∧ c ≠ '.' ∧ c ≠ 'e' ∧ c ≠ 'E' := by
    decide
  intro d first
  cases first
  exact each c mark

def isApart (c : Char) : Bool := isSpace c || c == ']' || c == '\uFEFF'

theorem isApart_of_digit {d : Char} (digit : d.isDigit = true) : isApart d = false := by
  rw [Bool.eq_false_iff]
  intro apart
  simp only [isApart, isSpace, Bool.or_eq_true, beq_iff_eq] at apart
  rcases apart with ((((rfl | rfl) | rfl) | rfl) | rfl) | rfl <;> cases digit

theorem exists_word {word : List Char} {v : Value} (listed : (word, v) ∈ words) :
    ∃ c rest, word = c :: rest ∧ isApart c = false ∧ c ≠ '"' ∧ c ≠ '[' ∧ c ≠ '{' := by
  have each : ∀ e ∈ words, ∃ c rest, e.1 = c :: rest ∧
      isApart c = false ∧ c ≠ '"' ∧ c ≠ '[' ∧ c ≠ '{' := by
    simp only [words, List.forall_mem_cons]
    exact ⟨⟨_, _, rfl, by decide⟩, ⟨_, _, rfl, by decide⟩, ⟨_, _, rfl, by decide⟩,
      ⟨_, _, rfl, by decide⟩, ⟨_, _, rfl, by decide⟩, ⟨_, _, rfl, by decide⟩,
      List.forall_mem_nil _⟩
  exact each _ listed

theorem Writes.start {w : List Char} {v : Value} (writes : Writes w v) :
    ∃ c rest, w = c :: rest ∧ isApart c = false := by
  cases writes with
  | word listed =>
      obtain ⟨c, rest, same, apart, _⟩ := exists_word listed
      exact ⟨c, rest, same, apart⟩
  | number n =>
      obtain ⟨d, ds, digit, start⟩ := n.exists_unsigned
      cases sign : n.negative with
      | false => exact ⟨d, ds, by simp [Numeral.source, sign, start], isApart_of_digit digit⟩
      | true => exact ⟨'-', d :: ds, by simp [Numeral.source, sign, start], rfl⟩
  | text spells => exact ⟨_, _, rfl, rfl⟩
  | emptyList blanks => exact ⟨_, _, rfl, rfl⟩
  | list more each => exact ⟨_, _, rfl, rfl⟩
  | emptyMapping blanks => exact ⟨_, _, rfl, rfl⟩
  | mapping more each => exact ⟨_, _, rfl, rfl⟩

theorem Writes.exists_fuel {w : List Char} {v : Value} (writes : Writes w v) {fuel : Nat}
    (enough : 2 * w.length ≤ fuel) : ∃ f, fuel = f + 1 := by
  obtain ⟨c, rest, rfl, _⟩ := writes.start
  rw [List.length_cons] at enough
  exact ⟨fuel - 1, by omega⟩

theorem Writes.skipSpace {w gap : List Char} {v : Value} (writes : Writes w v)
    (blanks : Blanks gap) (rest : List Char) :
    skipSpace (gap ++ (w ++ rest)) = w ++ rest := by
  obtain ⟨c, later, rfl, other⟩ := writes.start
  refine skipSpace_append blanks ?_
  intro d first
  cases first
  simp only [isApart, Bool.or_eq_false_iff] at other
  exact other.1.1

theorem skipSpace_mark {gap : List Char} (blanks : Blanks gap) {c : Char}
    (mark : c ∈ [',', ']', '}', ':', '"']) (rest : List Char) :
    Json.skipSpace (gap ++ c :: rest) = c :: rest := by
  have each : ∀ c ∈ [',', ']', '}', ':', '"'], isSpace c = false := by decide
  refine skipSpace_append blanks ?_
  intro d first
  cases first
  exact each c mark

def IsReadFrom (limit : Option Nat) (refused : Nat → Prop) (w : List Char) (v : Value) : Prop :=
  ∀ fuel rest, 2 * w.length ≤ fuel → Ends rest →
    ReadsUnless refused (readValue limit fuel (w ++ rest)) (v, rest)

theorem IsReadFrom.mono {limit : Option Nat} {refused refused' : Nat → Prop} {w : List Char}
    {v : Value} (reads : IsReadFrom limit refused w v)
    (weaker : ∀ digits, refused digits → refused' digits) : IsReadFrom limit refused' w v :=
  fun fuel rest enough ends => (reads fuel rest enough ends).mono weaker

section Items

variable {limit : Option Nat} {refused : Nat → Prop}

theorem readItems_item {i : Item} (writes : Writes i.written i.value)
    (reads : IsReadFrom limit refused i.written i.value) (c : Char) (mark : c ∈ [',', ']', '}'])
    (rest : List Char) {fuel : Nat} (enough : 2 * i.source.length ≤ fuel)
    {result : List Value × List Char}
    (next : ReadsUnless refused (match c :: rest with
      | ']' :: rest => .ok ([i.value], rest)
      | ',' :: rest => do
        let (values, rest) ← readItems limit fuel (skipSpace rest)
        return (i.value :: values, rest)
      | rest => stop .comma rest) result) :
    ReadsUnless refused (readItems limit (fuel + 1) (skipSpace (i.source ++ c :: rest)))
      result := by
  have text : i.source ++ c :: rest = i.front ++ (i.written ++ (i.back ++ c :: rest)) := by
    simp [Item.source]
  have short : 2 * i.written.length ≤ fuel := by
    simp only [Item.source, List.length_append] at enough
    omega
  have skips : skipSpace (i.back ++ c :: rest) = c :: rest :=
    skipSpace_mark i.back_blanks (List.mem_append_left [':', '"'] mark) rest
  rw [text, writes.skipSpace i.front_blanks, readItems]
  refine (reads fuel _ short (ends_of_blanks i.back_blanks (ends_mark mark rest))).bind ?_
  dsimp only
  rw [skips]
  exact next

theorem readItems_join {items : List Item} (more : items ≠ [])
    (each : ∀ i ∈ items, Writes i.written i.value)
    (reads : ∀ i ∈ items, IsReadFrom limit refused i.written i.value) (rest : List Char)
    {fuel : Nat} (enough : 2 * (Text.join [','] (items.map Item.source)).length < fuel) :
    ReadsUnless refused (readItems limit fuel
      (skipSpace (Text.join [','] (items.map Item.source) ++ ']' :: rest)))
      (items.map Item.value, rest) := by
  induction items generalizing fuel with
  | nil => exact absurd rfl more
  | cons i items ih =>
      obtain ⟨fuel, rfl⟩ : ∃ f, fuel = f + 1 := ⟨fuel - 1, by omega⟩
      have first := readItems_item (each i List.mem_cons_self) (reads i List.mem_cons_self)
      cases items with
      | nil =>
          have short : 2 * i.source.length ≤ fuel := by
            simp only [List.map_cons, List.map_nil, Text.join] at enough
            omega
          exact first _ (by simp) rest short (.inl rfl)
      | cons second later =>
          have text : Text.join [','] ((i :: second :: later).map Item.source) ++ ']' :: rest =
              i.source ++ ',' ::
                (Text.join [','] ((second :: later).map Item.source) ++ ']' :: rest) := by
            simp [Text.join_cons_cons]
          have short : 2 * i.source.length ≤ fuel ∧
              2 * (Text.join [','] ((second :: later).map Item.source)).length < fuel := by
            simp only [List.map_cons, Text.join_cons_cons, List.length_append, List.length_cons,
              List.length_nil] at enough ⊢
            omega
          have others := ih (List.cons_ne_nil _ _) (fun j listed => each j (.tail _ listed))
            (fun j listed => reads j (.tail _ listed)) short.2
          rw [text]
          exact first _ (by simp) _ short.1 (others.bind (.inl rfl))

theorem readMembers_member {m : Member} (writes : Writes m.item.written m.item.value)
    (reads : IsReadFrom limit refused m.item.written m.item.value) (c : Char)
    (mark : c ∈ [',', ']', '}']) (rest : List Char) {fuel : Nat}
    (enough : 2 * m.source.length ≤ fuel) {read : Entries} {result : Entries × List Char}
    (next : ReadsUnless refused (match c :: rest with
      | '}' :: rest => .ok (read.put m.entry.1 m.entry.2, rest)
      | ',' :: rest => readMembers limit fuel (read.put m.entry.1 m.entry.2) (skipSpace rest)
      | rest => stop .comma rest) result) :
    ReadsUnless refused (readMembers limit (fuel + 1) read (skipSpace (m.source ++ c :: rest)))
      result := by
  have text : m.source ++ c :: rest = m.before ++ '"' :: (m.name ++ '"' :: (m.after ++ ':' ::
      (m.item.front ++ (m.item.written ++ (m.item.back ++ c :: rest))))) := by
    simp [Member.source, Item.source]
  have short : 2 * m.item.written.length ≤ fuel := by
    simp only [Member.source, Item.source, List.length_append, List.length_cons] at enough
    omega
  have name (later : List Char) :
      startText (m.name ++ '"' :: later) = .ok (String.ofList m.spelled, later) :=
    startText_eq_ok.mpr ⟨m.name, m.spelled, m.name_spells, rfl, rfl⟩
  have skips : skipSpace (m.item.back ++ c :: rest) = c :: rest :=
    skipSpace_mark m.item.back_blanks (List.mem_append_left [':', '"'] mark) rest
  rw [text, skipSpace_mark m.before_blanks (by simp), readMembers, name, ok_bind]
  dsimp only
  rw [skipSpace_mark m.after_blanks (by simp)]
  change ReadsUnless refused (readValue limit fuel (skipSpace (m.item.front ++ _)) >>= _) result
  rw [writes.skipSpace m.item.front_blanks]
  refine (reads fuel _ short (ends_of_blanks m.item.back_blanks (ends_mark mark rest))).bind ?_
  dsimp only
  rw [skips]
  exact next

theorem readMembers_join {members : List Member} (more : members ≠ [])
    (each : ∀ m ∈ members, Writes m.item.written m.item.value)
    (reads : ∀ m ∈ members, IsReadFrom limit refused m.item.written m.item.value) (rest : List Char)
    {fuel : Nat} (enough : 2 * (Text.join [','] (members.map Member.source)).length < fuel)
    (read : Entries) :
    ReadsUnless refused (readMembers limit fuel read
      (skipSpace (Text.join [','] (members.map Member.source) ++ '}' :: rest)))
      (read.putAll (members.map Member.entry), rest) := by
  induction members generalizing fuel read with
  | nil => exact absurd rfl more
  | cons m members ih =>
      obtain ⟨fuel, rfl⟩ : ∃ f, fuel = f + 1 := ⟨fuel - 1, by omega⟩
      have first := readMembers_member (each m List.mem_cons_self) (reads m List.mem_cons_self)
      cases members with
      | nil =>
          have short : 2 * m.source.length ≤ fuel := by
            simp only [List.map_cons, List.map_nil, Text.join] at enough
            omega
          exact first _ (by simp) rest short (.inl rfl)
      | cons second later =>
          have text : Text.join [','] ((m :: second :: later).map Member.source) ++ '}' :: rest =
              m.source ++ ',' ::
                (Text.join [','] ((second :: later).map Member.source) ++ '}' :: rest) := by
            simp [Text.join_cons_cons]
          have short : 2 * m.source.length ≤ fuel ∧
              2 * (Text.join [','] ((second :: later).map Member.source)).length < fuel := by
            simp only [List.map_cons, Text.join_cons_cons, List.length_append, List.length_cons,
              List.length_nil] at enough ⊢
            omega
          have others := ih (List.cons_ne_nil _ _) (fun n listed => each n (.tail _ listed))
            (fun n listed => reads n (.tail _ listed)) short.2
          rw [text]
          exact first _ (by simp) _ short.1 (others _)

end Items

theorem exists_join (first : List Char) (others : List (List Char)) (rest : List Char) :
    ∃ later, Text.join [','] (first :: others) ++ rest = first ++ later := by
  cases others with
  | nil => exact ⟨rest, rfl⟩
  | cons second others => exact ⟨_, by rw [Text.join_cons_cons, List.append_assoc, List.append_assoc]⟩

theorem not_closed_of_items {items : List Item} (more : items ≠ [])
    (each : ∀ i ∈ items, Writes i.written i.value) (rest later : List Char) :
    skipSpace (Text.join [','] (items.map Item.source) ++ rest) ≠ ']' :: later := by
  obtain ⟨i, items, rfl⟩ := List.exists_cons_of_ne_nil more
  obtain ⟨tail, text⟩ := exists_join i.source (items.map Item.source) rest
  have writes := each i List.mem_cons_self
  obtain ⟨c, written, start, apart⟩ := writes.start
  rw [List.map_cons, text, Item.source, List.append_assoc, List.append_assoc,
    writes.skipSpace i.front_blanks, start]
  intro same
  rw [(List.cons.inj same).1] at apart
  cases apart

theorem not_closed_of_members {members : List Member} (more : members ≠ [])
    (rest later : List Char) :
    skipSpace (Text.join [','] (members.map Member.source) ++ rest) ≠ '}' :: later := by
  obtain ⟨m, members, rfl⟩ := List.exists_cons_of_ne_nil more
  obtain ⟨tail, text⟩ := exists_join m.source (members.map Member.source) rest
  rw [List.map_cons, text, Member.source, List.append_assoc, List.cons_append,
    skipSpace_mark m.before_blanks (by simp)]
  intro same
  cases same

theorem readValue_scalar {cs : List Char} (limit : Option Nat) (fuel : Nat)
    (single : ∀ c ∈ cs.head?, c ≠ '"' ∧ c ≠ '[' ∧ c ≠ '{') :
    readValue limit (fuel + 1) cs = readScalar limit cs := by
  unfold readValue
  split
  · exact absurd rfl (single _ rfl).1
  · exact absurd rfl (single _ rfl).2.1
  · exact absurd rfl (single _ rfl).2.2
  · rfl

theorem single_of_digit {d : Char} (digit : d.isDigit = true) : d ≠ '"' ∧ d ≠ '[' ∧ d ≠ '{' := by
  refine ⟨?_, ?_, ?_⟩ <;> (rintro rfl; cases digit)

theorem Writes.reads {w : List Char} {v : Value} (writes : Writes w v) (limit : Option Nat) :
    IsReadFrom limit (IsRefused limit w) w v := by
  induction writes with
  | @word word v listed =>
      intro fuel rest enough ends
      obtain ⟨c, later, start, _, single⟩ := exists_word listed
      obtain ⟨fuel, rfl⟩ := (Writes.word listed).exists_fuel enough
      rw [readValue_scalar limit fuel, readScalar_word listed]
      · exact .inl rfl
      · rw [start]
        intro d first
        cases first
        exact single
  | number n =>
      intro fuel rest enough ends
      obtain ⟨d, ds, digit, start⟩ := n.exists_unsigned
      obtain ⟨fuel, rfl⟩ := (Writes.number n).exists_fuel enough
      rw [readValue_scalar limit fuel, readScalar_numeral n ends]
      · cases huge : n.isHuge limit with
        | true => exact .inr ⟨_, _, ⟨n, .number, huge, rfl⟩, rfl⟩
        | false => exact .inl rfl
      · intro c first
        cases sign : n.negative with
        | false =>
            rw [Numeral.source, sign, start] at first
            cases first
            exact single_of_digit digit
        | true =>
            rw [Numeral.source, sign] at first
            cases first
            decide
  | @text source spelled spells =>
      intro fuel rest enough ends
      obtain ⟨fuel, rfl⟩ := (Writes.text spells).exists_fuel enough
      have name : startText (source ++ '"' :: rest) = .ok (String.ofList spelled, rest) :=
        startText_eq_ok.mpr ⟨source, spelled, spells, rfl, rfl⟩
      rw [List.cons_append, List.append_assoc, readValue]
      change ReadsUnless _ (startText (source ++ '"' :: rest) >>= _) _
      rw [name]
      exact .inl rfl
  | @emptyList gap blanks =>
      intro fuel rest enough ends
      obtain ⟨fuel, rfl⟩ := (Writes.emptyList blanks).exists_fuel enough
      rw [List.cons_append, List.append_assoc, List.singleton_append, readValue,
        skipSpace_mark blanks (by simp)]
      exact .inl rfl
  | @list items more each ih =>
      intro fuel rest enough ends
      obtain ⟨fuel, rfl⟩ := (Writes.list more each).exists_fuel enough
      have short : 2 * (Text.join [','] (items.map Item.source)).length < fuel := by
        simp only [List.length_cons, List.length_append] at enough
        omega
      -- A number that is refused within an item is one of the whole list.
      have wider : ∀ i ∈ items, ∀ digits, IsRefused limit i.written digits →
          IsRefused limit ('[' :: (Text.join [','] (items.map Item.source) ++ [']'])) digits := by
        rintro i member digits ⟨n, within, huge⟩
        exact ⟨n, .list each member within, huge⟩
      have reads := fun i member => (ih i member).mono (wider i member)
      have listed := readItems_join more each reads rest short
      rw [List.cons_append, List.append_assoc, List.singleton_append, readValue]
      split
      · rename_i later closed
        exact absurd closed (not_closed_of_items more each _ later)
      · exact listed.bind (.inl rfl)
  | @emptyMapping gap blanks =>
      intro fuel rest enough ends
      obtain ⟨fuel, rfl⟩ := (Writes.emptyMapping blanks).exists_fuel enough
      rw [List.cons_append, List.append_assoc, List.singleton_append, readValue,
        skipSpace_mark blanks (by simp)]
      exact .inl rfl
  | @mapping members more each ih =>
      intro fuel rest enough ends
      obtain ⟨fuel, rfl⟩ := (Writes.mapping more each).exists_fuel enough
      have short : 2 * (Text.join [','] (members.map Member.source)).length < fuel := by
        simp only [List.length_cons, List.length_append] at enough
        omega
      have wider : ∀ m ∈ members, ∀ digits, IsRefused limit m.item.written digits →
          IsRefused limit ('{' :: (Text.join [','] (members.map Member.source) ++ ['}']))
            digits := by
        rintro m member digits ⟨n, within, huge⟩
        exact ⟨n, .mapping each member within, huge⟩
      have reads := fun m member => (ih m member).mono (wider m member)
      have listed := readMembers_join more each reads rest short []
      rw [List.cons_append, List.append_assoc, List.singleton_append, readValue]
      split
      · rename_i later closed
        exact absurd closed (not_closed_of_members more _ later)
      · exact listed.bind (.inl rfl)

/-! ### Documents -/

theorem isDocument_of_read {cs : List Char} {limit : Option Nat} {v : Value}
    (read : readDocument cs limit = .ok v) : IsDocument cs v := by
  unfold readDocument at read
  split at read
  · cases read
  · obtain ⟨⟨value, rest⟩, first, read⟩ := bind_eq_ok.mp read
    obtain ⟨front, frontBlanks, cut⟩ := exists_skipSpace cs
    obtain ⟨w, writes, start⟩ := (sound limit _).value _ value rest first
    obtain ⟨back, backBlanks, left⟩ := exists_skipSpace rest
    dsimp only at read
    split at read
    · rename_i closed
      cases read
      refine ⟨⟨front, w, back, v, frontBlanks, backBlanks⟩, writes, ?_, rfl⟩
      rw [closed, List.append_nil] at left
      rw [cut, start, left]
      rfl
    · cases read

theorem IsDocument.readsUnless {cs : List Char} {v : Value} (document : IsDocument cs v)
    (limit : Option Nat) :
    ReadsUnless (fun digits => ∃ n, HasNumber cs n ∧ n.isHuge limit = true ∧
      n.whole.length = digits) (readDocument cs limit) v := by
  obtain ⟨i, writes, rfl, rfl⟩ := document
  have unmarked : ∀ later, i.source ≠ '\uFEFF' :: later := by
    intro later same
    rw [Item.source] at same
    cases start : i.front with
    | nil =>
        obtain ⟨c, written, cut, apart⟩ := writes.start
        rw [start, cut] at same
        rw [(List.cons.inj same).1] at apart
        cases apart
    | cons c front =>
        have space := i.front_blanks c (by simp [start])
        rw [start] at same
        rw [(List.cons.inj same).1] at space
        cases space
  have enough : 2 * i.written.length ≤ 2 * i.source.length + 1 := by
    simp only [Item.source, List.length_append]
    omega
  have ends : Ends i.back := by
    have last := ends_of_blanks i.back_blanks (show Ends [] by intro c first; cases first)
    rwa [List.append_nil] at last
  have closed : skipSpace i.back = [] := by
    have last := skipSpace_append i.back_blanks (show ∀ c ∈ [].head?, isSpace c = false by simp)
    rwa [List.append_nil] at last
  unfold readDocument
  -- The fuel is twice the length of the text, and a value takes no more than twice its own.
  split
  · rename_i later marked
    exact absurd marked (unmarked later)
  · rw [show skipSpace i.source = _ from writes.skipSpace i.front_blanks i.back]
    refine (((writes.reads limit).mono ?_) _ _ enough ends).bind ?_
    · exact fun digits ⟨n, within, huge⟩ => ⟨n, ⟨i, rfl, within⟩, huge⟩
    · dsimp only
      rw [closed]
      exact .inl rfl

theorem IsDocument.reads {cs : List Char} {v : Value} (document : IsDocument cs v)
    (limit : Option Nat) : Reads (readDocument cs limit) v := by
  rcases document.readsUnless limit with read | ⟨digits, left, _, refused⟩
  · exact .inl read
  · exact .inr ⟨digits, left, refused⟩

/-- No whole number in a document has more digits than the limit. -/
def KeepsTo (limit : Option Nat) (cs : List Char) : Prop :=
  ∀ n, HasNumber cs n → n.isHuge limit = false

theorem IsDocument.read_of_keepsTo {cs : List Char} {v : Value} (document : IsDocument cs v)
    {limit : Option Nat} (keeps : KeepsTo limit cs) : readDocument cs limit = .ok v := by
  rcases document.readsUnless limit with read | ⟨digits, left, ⟨n, has, huge, _⟩, _⟩
  · exact read
  · rw [keeps n has] at huge
    cases huge

theorem length_le_join {part : List Char} {parts : List (List Char)} (listed : part ∈ parts) :
    part.length ≤ (Text.join [','] parts).length := by
  induction parts with
  | nil => cases listed
  | cons first later ih =>
      cases later with
      | nil => rw [List.mem_singleton.mp listed, Text.join]
      | cons second later =>
          rw [Text.join_cons_cons, List.length_append, List.length_append]
          rcases List.mem_cons.mp listed with rfl | listed
          · omega
          · have within := ih listed
            omega

theorem Mentions.length_le {n : Numeral} {w : List Char} (within : Mentions n w) :
    n.whole.length ≤ w.length := by
  induction within with
  | number =>
      simp only [Numeral.source, Numeral.unsigned, List.length_append]
      omega
  | @list items i each listed within ih =>
      have source : i.source ∈ items.map Item.source := List.mem_map_of_mem listed
      have inside := length_le_join source
      simp only [Item.source, List.length_append, List.length_cons] at inside ⊢
      omega
  | @mapping members m each listed within ih =>
      have source : m.source ∈ members.map Member.source := List.mem_map_of_mem listed
      have inside := length_le_join source
      simp only [Member.source, Item.source, List.length_append, List.length_cons] at inside ⊢
      omega

theorem keepsTo_of_length_le {cs : List Char} {limit : Nat} (short : cs.length ≤ limit) :
    KeepsTo (some limit) cs := by
  intro n ⟨i, same, within⟩
  have whole := within.length_le
  have item : i.written.length ≤ cs.length := by
    simp only [same, Item.source, List.length_append]
    omega
  have few : ¬limit < n.whole.length := by omega
  simp [Numeral.isHuge, few]

theorem readDocument_failsOnly (limit : Option Nat) (cs : List Char) :
    FailsOnly (Stop.Exceeds limit) (readDocument cs limit) := by
  unfold readDocument
  split
  · exact stop_failsOnly (by simp) _
  · refine ((faultsExceed limit _).value _).bind fun found _ => ?_
    dsimp only
    split
    · exact .ok _
    · exact stop_failsOnly (by simp) _

/-- Without a limit, a text is read as a value exactly if it is a document of that value. -/
theorem readDocument_iff {cs : List Char} {v : Value} :
    readDocument cs none = .ok v ↔ IsDocument cs v := by
  constructor
  · exact isDocument_of_read
  · intro document
    rcases document.reads none with read | ⟨digits, left, refused⟩
    · exact read
    · cases readDocument_failsOnly none cs _ refused digits rfl

/-! ### Characters of a document -/

theorem isShown_of_mark {c : Char} (mark : c ∈ ['"', '[', ']', '{', '}', ':', ',']) :
    IsShown c := by
  have each : ∀ c ∈ ['"', '[', ']', '{', '}', ':', ','], 32 ≤ c.toNat := by decide
  exact .inr (each c mark)

theorem isShown_join {parts : List (List Char)} (each : ∀ part ∈ parts, ∀ c ∈ part, IsShown c) :
    ∀ c ∈ Text.join [','] parts, IsShown c := by
  induction parts with
  | nil => exact List.forall_mem_nil _
  | cons first later ih =>
      obtain ⟨head, tail⟩ := List.forall_mem_cons.mp each
      cases later with
      | nil => exact head
      | cons second later =>
          rw [Text.join_cons_cons]
          intro c inside
          rcases List.mem_append.mp inside with inside | inside
          · rcases List.mem_append.mp inside with inside | inside
            · exact head c inside
            · exact isShown_of_mark (by simp [List.mem_singleton.mp inside])
          · exact ih tail c inside

theorem Item.isShown (i : Item) (written : ∀ c ∈ i.written, IsShown c) :
    ∀ c ∈ i.source, IsShown c := by
  intro c inside
  rcases List.mem_append.mp inside with inside | inside
  · exact .inl (i.front_blanks c inside)
  · rcases List.mem_append.mp inside with inside | inside
    · exact written c inside
    · exact .inl (i.back_blanks c inside)

theorem Member.isShown (m : Member) (written : ∀ c ∈ m.item.written, IsShown c) :
    ∀ c ∈ m.source, IsShown c := by
  intro c inside
  simp only [Member.source, List.mem_append, List.mem_cons] at inside
  rcases inside with inside | rfl | inside | rfl | inside | rfl | inside
  · exact .inl (m.before_blanks c inside)
  · exact isShown_of_mark (by simp)
  · exact .inr (m.name_spells.isVisible c inside)
  · exact isShown_of_mark (by simp)
  · exact .inl (m.after_blanks c inside)
  · exact isShown_of_mark (by simp)
  · exact m.item.isShown written c inside

theorem isShown_between {inner : List Char} (shown : ∀ c ∈ inner, IsShown c) {first last : Char}
    (opens : first ∈ ['"', '[', ']', '{', '}', ':', ','])
    (closes : last ∈ ['"', '[', ']', '{', '}', ':', ',']) :
    ∀ c ∈ first :: (inner ++ [last]), IsShown c := by
  intro c inside
  simp only [List.mem_cons, List.mem_append, List.not_mem_nil, or_false] at inside
  rcases inside with rfl | inside | rfl
  · exact isShown_of_mark opens
  · exact shown c inside
  · exact isShown_of_mark closes

theorem Writes.isShown {w : List Char} {v : Value} (writes : Writes w v) :
    ∀ c ∈ w, IsShown c := by
  induction writes with
  | word listed => exact fun c inside => .inr (word_isVisible listed c inside)
  | number n => exact fun c inside => .inr (n.isVisible c inside)
  | text spells =>
      exact isShown_between (fun c inside => .inr (spells.isVisible c inside)) (by simp) (by simp)
  | emptyList blanks =>
      exact isShown_between (fun c inside => .inl (blanks c inside)) (by simp) (by simp)
  | @list items more each ih =>
      refine isShown_between (isShown_join ?_) (by simp) (by simp)
      intro part listed
      obtain ⟨i, member, rfl⟩ := List.mem_map.mp listed
      exact i.isShown (ih i member)
  | emptyMapping blanks =>
      exact isShown_between (fun c inside => .inl (blanks c inside)) (by simp) (by simp)
  | @mapping members more each ih =>
      refine isShown_between (isShown_join ?_) (by simp) (by simp)
      intro part listed
      obtain ⟨m, member, rfl⟩ := List.mem_map.mp listed
      exact m.isShown (ih m member)

theorem IsDocument.isShown {cs : List Char} {v : Value} (document : IsDocument cs v) :
    ∀ c ∈ cs, IsShown c := by
  obtain ⟨i, writes, rfl, _⟩ := document
  exact i.isShown writes.isShown

end ReleaseAdvisor.Json
