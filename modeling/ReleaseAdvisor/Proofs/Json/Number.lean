import ReleaseAdvisor.Proofs.Json.Quoted

/-!
Numbers and words. A number is whole if it has neither a fraction nor an exponent; it is read up to
where none of its parts can go on. A limit counts for whole numbers only.
-/

namespace ReleaseAdvisor.Json

open Outcome

/-! ### Digits -/

theorem digits_append {ds rest : List Char} (each : ∀ d ∈ ds, d.isDigit = true)
    (ends : ∀ c ∈ rest.head?, c.isDigit = false) : digits (ds ++ rest) = (ds, rest) := by
  have stops : rest.takeWhile Char.isDigit = [] ∧ rest.dropWhile Char.isDigit = rest := by
    cases rest with
    | nil => exact ⟨rfl, rfl⟩
    | cons c rest => simp [ends c rfl]
  rw [digits, List.takeWhile_append_of_pos each, List.dropWhile_append_of_pos each, stops.1,
    stops.2, List.append_nil]

theorem digits_eq {cs ds rest : List Char} (found : digits cs = (ds, rest)) :
    (∀ d ∈ ds, d.isDigit = true) ∧ cs = ds ++ rest := by
  cases found
  exact ⟨List.all_eq_true.mp List.all_takeWhile, List.takeWhile_append_dropWhile.symm⟩

/-! ### Fractions -/

def pointed (fraction : List Char) : List Char := if fraction = [] then [] else '.' :: fraction

theorem readFraction_pointed {fraction rest : List Char} (each : ∀ d ∈ fraction, d.isDigit = true)
    (ends : ∀ c ∈ rest.head?, c.isDigit = false ∧ c ≠ '.') :
    readFraction (pointed fraction ++ rest) = (fraction, rest) := by
  by_cases none : fraction = []
  · subst none
    cases rest with
    | nil => rfl
    | cons c rest =>
        change readFraction (c :: rest) = _
        rw [readFraction]
        intro later same
        exact (ends c rfl).2 (List.cons.inj same).1
  · have found := digits_append each fun c first => (ends c first).1
    rw [pointed, if_neg none, List.cons_append, readFraction, found]
    cases fraction with
    | nil => exact absurd rfl none
    | cons d fraction => rfl

theorem readFraction_eq {cs fraction rest : List Char}
    (found : readFraction cs = (fraction, rest)) :
    (∀ d ∈ fraction, d.isDigit = true) ∧ cs = pointed fraction ++ rest := by
  unfold readFraction at found
  split at found
  · rename_i later
    split at found
    · cases found
      exact ⟨by simp, rfl⟩
    · rename_i some
      obtain ⟨each, rfl⟩ := digits_eq found
      have more : fraction ≠ [] := fun none => some rest (by rw [found, none])
      exact ⟨each, by rw [pointed, if_neg more]; rfl⟩
  · cases found
    exact ⟨by simp, rfl⟩

/-! ### Exponents -/

structure Exponent where
  mark : Char
  sign : List Char
  digits : List Char
  mark_letter : mark = 'e' ∨ mark = 'E'
  sign_known : sign = [] ∨ sign = ['+'] ∨ sign = ['-']
  digits_some : digits ≠ []
  digits_each : ∀ d ∈ digits, d.isDigit = true

namespace Exponent

def source (e : Exponent) : List Char := e.mark :: (e.sign ++ e.digits)

def value (e : Exponent) : Int :=
  if e.sign = ['-'] then -(digitsValue e.digits : Int) else digitsValue e.digits

end Exponent

def raised (exponent : Option Exponent) : List Char := (exponent.map Exponent.source).getD []

theorem readExponent_raised {exponent : Option Exponent} {rest : List Char}
    (ends : ∀ c ∈ rest.head?, c.isDigit = false ∧ c ≠ 'e' ∧ c ≠ 'E') :
    readExponent (raised exponent ++ rest) = (exponent.map Exponent.value, rest) := by
  cases exponent with
  | none =>
      cases rest with
      | nil => rfl
      | cons c rest =>
          obtain ⟨_, small, large⟩ := ends c rfl
          simp [raised, readExponent, small, large]
  | some e =>
      have found := digits_append e.digits_each fun c first => (ends c first).1
      obtain ⟨d, ds, same⟩ := List.exists_cons_of_ne_nil e.digits_some
      have digit : d.isDigit = true := e.digits_each d (by simp [same])
      have unsigned : d ≠ '-' ∧ d ≠ '+' := by
        constructor <;> (rintro rfl; cases digit)
      have marked : (e.mark == 'e' || e.mark == 'E') = true := by
        rcases e.mark_letter with letter | letter <;> rw [letter] <;> rfl
      change readExponent (e.mark :: ((e.sign ++ e.digits) ++ rest)) = (some e.value, rest)
      rw [same, List.cons_append] at found
      rcases e.sign_known with sign | sign | sign
      · rw [sign, same, List.nil_append, List.cons_append, readExponent, marked]
        · simp [found, Exponent.value, sign, same]
        · exact fun _ other => unsigned.1 (List.cons.inj other).1
        · exact fun _ other => unsigned.2 (List.cons.inj other).1
      · simp [sign, same, readExponent, marked, found, Exponent.value]
      · simp [sign, same, readExponent, marked, found, Exponent.value]

theorem readExponent_eq {cs rest : List Char} {found? : Option Int}
    (found : readExponent cs = (found?, rest)) :
    ∃ exponent, found? = exponent.map Exponent.value ∧ cs = raised exponent ++ rest := by
  have absent : (none, cs) = (found?, rest) →
      ∃ exponent, found? = exponent.map Exponent.value ∧ cs = raised exponent ++ rest := by
    intro same
    cases same
    exact ⟨none, rfl, rfl⟩
  unfold readExponent at found
  split at found
  · rename_i mark later
    split at found
    · rename_i marked
      split at found
      rename_i negative unsigned signs
      have signed : ∃ sign, (sign = [] ∨ sign = ['+'] ∨ sign = ['-']) ∧ later = sign ++ unsigned ∧
          (negative = true ↔ sign = ['-']) := by
        split at signs <;> cases signs
        · exact ⟨['-'], by simp, rfl, by simp⟩
        · exact ⟨['+'], by simp, rfl, by simp⟩
        · exact ⟨[], by simp, rfl, by simp⟩
      obtain ⟨sign, known, rfl, minus⟩ := signed
      split at found
      · exact absent found
      · rename_i ds after more read
        obtain ⟨each, rfl⟩ := digits_eq read
        cases found
        have letter : mark = 'e' ∨ mark = 'E' := by simpa using marked
        refine ⟨some ⟨mark, sign, ds, letter, known, more, each⟩, ?_, ?_⟩
        · simp [Exponent.value, minus]
        · simp [raised, Exponent.source]
    · exact absent found
  · exact absent found

/-! ### Numbers -/

def wholePart : List Char → List Char × List Char
  | '0' :: rest => (['0'], rest)
  | cs => digits cs

def IsWholePart (ds : List Char) : Prop :=
  ds = ['0'] ∨ ds ≠ [] ∧ ds.head? ≠ some '0' ∧ ∀ d ∈ ds, d.isDigit = true

theorem IsWholePart.ne_nil {ds : List Char} (whole : IsWholePart ds) : ds ≠ [] := by
  rcases whole with rfl | ⟨more, _⟩
  · exact List.cons_ne_nil _ _
  · exact more

theorem wholePart_append {ds rest : List Char} (whole : IsWholePart ds)
    (ends : ∀ c ∈ rest.head?, c.isDigit = false) : wholePart (ds ++ rest) = (ds, rest) := by
  rcases whole with rfl | ⟨more, nonzero, each⟩
  · rfl
  · obtain ⟨d, ds, rfl⟩ := List.exists_cons_of_ne_nil more
    rw [List.cons_append, wholePart]
    · exact digits_append each ends
    · intro later same
      rw [(List.cons.inj same).1] at nonzero
      exact nonzero rfl

theorem wholePart_eq {cs ds rest : List Char} (found : wholePart cs = (ds, rest)) (more : ds ≠ []) :
    IsWholePart ds ∧ cs = ds ++ rest := by
  unfold wholePart at found
  split at found
  · cases found
    exact ⟨.inl rfl, rfl⟩
  · rename_i other
    obtain ⟨each, rfl⟩ := digits_eq found
    refine ⟨.inr ⟨more, fun zero => ?_, each⟩, rfl⟩
    obtain ⟨d, ds, rfl⟩ := List.exists_cons_of_ne_nil more
    cases zero
    exact other (ds ++ rest) rfl

structure Numeral where
  negative : Bool
  whole : List Char
  fraction : List Char
  exponent : Option Exponent
  whole_part : IsWholePart whole
  fraction_digits : ∀ d ∈ fraction, d.isDigit = true

namespace Numeral

def unsigned (n : Numeral) : List Char := n.whole ++ (pointed n.fraction ++ raised n.exponent)

def source (n : Numeral) : List Char := (if n.negative then ['-'] else []) ++ n.unsigned

def isWhole (n : Numeral) : Bool := n.fraction.isEmpty && n.exponent.isNone

def value (n : Numeral) : Value :=
  if n.isWhole then .int (if n.negative then -(digitsValue n.whole : Int) else digitsValue n.whole)
  else .double (.ofDecimal n.negative (digitsValue (n.whole ++ n.fraction))
    ((n.exponent.map Exponent.value).getD 0 - n.fraction.length))

def isHuge (limit : Option Nat) (n : Numeral) : Bool :=
  n.isWhole && limit.any (· < n.whole.length)

end Numeral

def Ends (rest : List Char) : Prop :=
  ∀ c ∈ rest.head?, c.isDigit = false ∧ c ≠ '.' ∧ c ≠ 'e' ∧ c ≠ 'E'

namespace Numeral

theorem head?_after_fraction (n : Numeral) {rest : List Char} (ends : Ends rest) :
    ∀ c ∈ (raised n.exponent ++ rest).head?, c.isDigit = false ∧ c ≠ '.' := by
  cases n.exponent with
  | none => exact fun c first => ⟨(ends c first).1, (ends c first).2.1⟩
  | some e =>
      intro c first
      have mark : e.mark = c := by simpa [raised, Exponent.source] using first
      rcases e.mark_letter with letter | letter <;> rw [← mark, letter] <;> decide

theorem head?_after_whole (n : Numeral) {rest : List Char} (ends : Ends rest) :
    ∀ c ∈ (pointed n.fraction ++ (raised n.exponent ++ rest)).head?, c.isDigit = false := by
  by_cases none : n.fraction = []
  · rw [pointed, if_pos none]
    exact fun c first => (n.head?_after_fraction ends c first).1
  · rw [pointed, if_neg none]
    intro c first
    cases first
    rfl

theorem readNumber_eq (limit : Option Nat) (negative : Bool) (cs : List Char) :
    readNumber limit negative cs =
      if (wholePart cs).1.isEmpty then none
      else
        let (fraction, afterFraction) := readFraction (wholePart cs).2
        let (exponent?, rest) := readExponent afterFraction
        if fraction.isEmpty && exponent?.isNone then
          if limit.any (· < (wholePart cs).1.length) then
            some (.error (wholePart cs).1.length, rest)
          else
            let n : Nat := digitsValue (wholePart cs).1
            some (.ok (.int (if negative then -(n : Int) else (n : Int))), rest)
        else
          let exponent : Int := exponent?.getD 0 - fraction.length
          some (.ok (.double (.ofDecimal negative (digitsValue ((wholePart cs).1 ++ fraction))
            exponent)), rest) := rfl

theorem reads (n : Numeral) {rest : List Char} (ends : Ends rest) (limit : Option Nat) :
    readNumber limit n.negative (n.unsigned ++ rest) =
      some (if n.isHuge limit then .error n.whole.length else .ok n.value, rest) := by
  have whole : wholePart (n.unsigned ++ rest) =
      (n.whole, pointed n.fraction ++ (raised n.exponent ++ rest)) := by
    rw [unsigned, List.append_assoc, List.append_assoc]
    exact wholePart_append n.whole_part (n.head?_after_whole ends)
  have fraction := readFraction_pointed n.fraction_digits (n.head?_after_fraction ends)
  have exponent : readExponent (raised n.exponent ++ rest) = _ :=
    readExponent_raised fun c first => ⟨(ends c first).1, (ends c first).2.2⟩
  have more : n.whole.isEmpty = false := List.isEmpty_eq_false_iff.mpr n.whole_part.ne_nil
  have absent : (n.exponent.map Exponent.value).isNone = n.exponent.isNone :=
    Option.isNone_map
  rw [readNumber_eq, whole]
  simp only [more, fraction, exponent, absent, isHuge, isWhole, value]
  by_cases integral : (n.fraction.isEmpty && n.exponent.isNone) = true
  · by_cases huge : limit.any (· < n.whole.length) = true <;>
      simp only [integral, huge, Bool.and_true, Bool.and_false, Bool.false_eq_true, if_true,
        if_false]
  · simp only [integral, Bool.false_and, Bool.false_eq_true, if_false]

theorem of_read {limit : Option Nat} {negative : Bool} {cs rest : List Char} {v : Value}
    (read : readNumber limit negative cs = some (.ok v, rest)) :
    ∃ n : Numeral, n.negative = negative ∧ cs = n.unsigned ++ rest ∧ v = n.value := by
  rw [readNumber_eq] at read
  generalize first : wholePart cs = found at read
  obtain ⟨ds, later⟩ := found
  split at read
  · cases read
  · rename_i more
    obtain ⟨whole, rfl⟩ := wholePart_eq first fun none => more (List.isEmpty_iff.mpr none)
    dsimp only at read
    generalize second : readFraction later = found at read
    obtain ⟨fraction, after⟩ := found
    obtain ⟨each, rfl⟩ := readFraction_eq second
    dsimp only at read
    generalize third : readExponent after = found at read
    obtain ⟨exponent?, left⟩ := found
    obtain ⟨exponent, rfl, rfl⟩ := readExponent_eq third
    rw [Option.isNone_map] at read
    refine ⟨⟨negative, ds, fraction, exponent, whole, each⟩, rfl, ?_⟩
    split at read
    · rename_i integral
      split at read
      · cases read
      · cases read
        exact ⟨by simp [unsigned], by rw [value, isWhole, if_pos integral]⟩
    · rename_i scaled
      cases read
      exact ⟨by simp [unsigned], by rw [value, isWhole, if_neg scaled]⟩

theorem exceeds_of_read {limit : Option Nat} {negative : Bool} {cs rest : List Char} {size : Nat}
    (read : readNumber limit negative cs = some (.error size, rest)) :
    limit.any (· < size) = true := by
  rw [readNumber_eq] at read
  split at read
  · cases read
  · dsimp only at read
    split at read
    · split at read
      · rename_i huge
        cases read
        exact huge
      · cases read
    · cases read

end Numeral

theorem Exponent.isVisible (e : Exponent) : ∀ c ∈ e.source, IsVisible c := by
  have mark : IsVisible e.mark := by
    rcases e.mark_letter with letter | letter <;> (rw [letter]; decide)
  have sign : ∀ c ∈ e.sign, IsVisible c := by
    intro c inside
    rcases e.sign_known with known | known | known <;> rw [known] at inside
    · cases inside
    · rw [List.mem_singleton.mp inside]
      decide
    · rw [List.mem_singleton.mp inside]
      decide
  simp only [source, List.forall_mem_cons, List.forall_mem_append]
  exact ⟨mark, sign, fun d inside => isVisible_of_digit (e.digits_each d inside)⟩

theorem Numeral.isVisible (n : Numeral) : ∀ c ∈ n.source, IsVisible c := by
  have sign : ∀ c ∈ (if n.negative then ['-'] else []), IsVisible c := by
    cases n.negative with
    | false => exact List.forall_mem_nil _
    | true => exact List.forall_mem_singleton.mpr (by decide)
  have whole : ∀ c ∈ n.whole, IsVisible c := by
    rcases n.whole_part with zero | ⟨_, _, each⟩
    · rw [zero]
      exact List.forall_mem_singleton.mpr (by decide)
    · exact fun c inside => isVisible_of_digit (each c inside)
  have fraction : ∀ c ∈ pointed n.fraction, IsVisible c := by
    rw [pointed]
    split
    · exact List.forall_mem_nil _
    · exact List.forall_mem_cons.mpr ⟨by decide, fun c inside =>
        isVisible_of_digit (n.fraction_digits c inside)⟩
  have exponent : ∀ c ∈ raised n.exponent, IsVisible c := by
    cases n.exponent with
    | none => exact List.forall_mem_nil _
    | some e => exact e.isVisible
  simp only [source, unsigned, List.forall_mem_append]
  exact ⟨sign, whole, fraction, exponent⟩

/-! ### Words and numbers -/

theorem word_isVisible {word : List Char} {v : Value} (listed : (word, v) ∈ words) :
    ∀ c ∈ word, IsVisible c := by
  have each : ∀ e ∈ words, ∀ c ∈ e.1, 32 ≤ c.toNat := by
    simp only [words, List.forall_mem_cons]
    refine ⟨by decide, by decide, by decide, by decide, by decide, by decide, ?_⟩
    exact List.forall_mem_nil _
  exact fun c inside => each _ listed c inside

theorem readScalar_word {word : List Char} {v : Value} (listed : (word, v) ∈ words)
    (limit : Option Nat) (rest : List Char) : readScalar limit (word ++ rest) = .ok (v, rest) := by
  have each : ∀ e ∈ words, ∀ limit, readScalar limit (e.1 ++ rest) = .ok (e.2, rest) := by
    simp only [words, List.forall_mem_cons]
    refine ⟨fun _ => rfl, fun _ => rfl, fun _ => rfl, fun _ => rfl, fun _ => rfl, fun _ => rfl, ?_⟩
    exact List.forall_mem_nil _
  exact each _ listed limit

theorem Numeral.exists_unsigned (n : Numeral) :
    ∃ d ds, d.isDigit = true ∧ n.unsigned = d :: ds := by
  obtain ⟨d, ds, cut⟩ := List.exists_cons_of_ne_nil n.whole_part.ne_nil
  refine ⟨d, ds ++ (pointed n.fraction ++ raised n.exponent), ?_, by rw [unsigned, cut]; rfl⟩
  rcases n.whole_part with zero | ⟨_, _, each⟩
  · rw [zero] at cut
    cases cut
    rfl
  · exact each d (by simp [cut])

theorem not_word_of_digit {d : Char} (digit : d.isDigit = true) (rest : List Char) :
    (words.findSome? fun (word, v) => (Text.after? word (d :: rest)).map (v, ·)) = none ∧
    (words.findSome? fun (word, v) => (Text.after? word ('-' :: d :: rest)).map (v, ·)) = none := by
  have other (c : Char) (letter : c.isDigit = false) : (c == d) = false := by
    rw [beq_eq_false_iff_ne]
    rintro rfl
    rw [letter] at digit
    cases digit
  constructor
  · simp [words, Text.after?, List.findSome?, other]
  · simp [words, Text.after?, List.findSome?, other]

theorem readScalar_numeral (n : Numeral) {rest : List Char} (ends : Ends rest)
    (limit : Option Nat) : readScalar limit (n.source ++ rest) =
      if n.isHuge limit then stop (.hugeNumber n.whole.length) (n.source ++ rest)
      else .ok (n.value, rest) := by
  obtain ⟨d, ds, digit, start⟩ := n.exists_unsigned
  have number := n.reads ends limit
  have wordless := not_word_of_digit digit (ds ++ rest)
  have unsigned : d ≠ '-' := by
    rintro rfl
    cases digit
  cases sign : n.negative with
  | false =>
      have written : n.source ++ rest = d :: (ds ++ rest) := by
        simp [Numeral.source, sign, start]
      rw [sign, start, List.cons_append] at number
      rw [written, readScalar, wordless.1]
      · simp only [number]
        cases n.isHuge limit <;> rfl
      · exact fun _ same => unsigned (List.cons.inj same).1
  | true =>
      have written : n.source ++ rest = '-' :: d :: (ds ++ rest) := by
        simp [Numeral.source, sign, start]
      rw [sign, start, List.cons_append] at number
      rw [written, readScalar, wordless.2]
      simp only [number]
      cases n.isHuge limit <;> rfl

theorem readScalar_eq_ok {limit : Option Nat} {cs rest : List Char} {v : Value}
    (read : readScalar limit cs = .ok (v, rest)) : ∃ w, cs = w ++ rest ∧
      ((w, v) ∈ words ∨ ∃ n : Numeral, w = n.source ∧ v = n.value) := by
  unfold readScalar at read
  split at read
  · rename_i found word
    cases read
    obtain ⟨⟨w, value⟩, listed, same⟩ := List.exists_of_findSome?_eq_some word
    obtain ⟨after, start, same⟩ := Option.map_eq_some_iff.mp same
    cases same
    exact ⟨w, Text.after?_eq_some.mp start, .inl listed⟩
  · dsimp only at read
    split at read
    · rename_i value after number
      cases read
      split at number
      · obtain ⟨n, minus, rfl, rfl⟩ := Numeral.of_read number
        exact ⟨n.source, by simp [Numeral.source, minus], .inr ⟨n, rfl, rfl⟩⟩
      · obtain ⟨n, plus, rfl, rfl⟩ := Numeral.of_read number
        exact ⟨n.source, by simp [Numeral.source, plus], .inr ⟨n, rfl, rfl⟩⟩
    · cases read
    · cases read

theorem readScalar_failsOnly (limit : Option Nat) (cs : List Char) :
    FailsOnly (Stop.Exceeds limit) (readScalar limit cs) := by
  unfold readScalar
  split
  · exact .ok _
  · dsimp only
    split
    · exact .ok _
    · rename_i size after number
      refine .error fun digits same => ?_
      cases same
      split at number
      · exact Numeral.exceeds_of_read number
      · exact Numeral.exceeds_of_read number
    · exact stop_failsOnly (by simp) _

end ReleaseAdvisor.Json
