import ReleaseAdvisor.Json.Reader
import ReleaseAdvisor.Proofs.Outcome
import ReleaseAdvisor.Proofs.Text

/-!
Quoted texts. What stands between the quotes is read as the characters that it spells, and nothing
else is read. A first and a second half of a pair are one character; any other half is the
replacement character.
-/

namespace ReleaseAdvisor.Json

open Outcome

/-! ### Blanks -/

def Blanks (cs : List Char) : Prop := ∀ c ∈ cs, isSpace c = true

theorem skipSpace_append {gap rest : List Char} (blanks : Blanks gap)
    (starts : ∀ c ∈ rest.head?, isSpace c = false) : skipSpace (gap ++ rest) = rest := by
  rw [skipSpace, List.dropWhile_append_of_pos blanks]
  cases rest with
  | nil => rfl
  | cons c rest => rw [List.dropWhile_cons_of_neg (by simp [starts c rfl])]

theorem exists_skipSpace (cs : List Char) : ∃ gap, Blanks gap ∧ cs = gap ++ skipSpace cs :=
  ⟨cs.takeWhile isSpace, fun _ inside => (List.all_eq_true.mp List.all_takeWhile) _ inside,
    List.takeWhile_append_dropWhile.symm⟩

def IsShown (c : Char) : Prop := isSpace c = true ∨ 32 ≤ c.toNat

def IsVisible (c : Char) : Prop := 32 ≤ c.toNat

instance (c : Char) : Decidable (IsVisible c) := inferInstanceAs (Decidable (_ ≤ _))

/-! ### Code points -/

def Quad (ds : List Char) (n : Nat) : Prop := hex4? ds = some (n, [])

def IsFirstHalf (n : Nat) : Prop := 0xD800 ≤ n ∧ n < 0xDC00

def IsSecondHalf (n : Nat) : Prop := 0xDC00 ≤ n ∧ n ≤ 0xDFFF

def IsHalf (n : Nat) : Prop := 0xD800 ≤ n ∧ n ≤ 0xDFFF

theorem hex4?_cut {cs rest : List Char} {n : Nat} (read : hex4? cs = some (n, rest)) :
    ∃ a b c d, cs = a :: b :: c :: d :: rest ∧ Quad [a, b, c, d] n ∧
      ∀ e ∈ [a, b, c, d], ∃ i, hexValue? e = some i := by
  match cs with
  | a :: b :: c :: d :: later =>
      simp only [hex4?, Option.bind_eq_bind, Option.bind_eq_some_iff, Option.pure_def,
        Option.some.injEq, Prod.mk.injEq] at read
      obtain ⟨i, first, j, second, k, third, l, fourth, value, rfl⟩ := read
      refine ⟨a, b, c, d, rfl, ?_, ?_⟩
      · rw [Quad, hex4?, first, second, third, fourth]
        exact congrArg (fun n => some (n, [])) value
      · simp [first, second, third, fourth]
  | [] | [_] | [_, _] | [_, _, _] => cases read

theorem hex4?_eq_some {cs rest : List Char} {n : Nat} :
    hex4? cs = some (n, rest) ↔ ∃ ds, Quad ds n ∧ cs = ds ++ rest := by
  constructor
  · intro read
    obtain ⟨a, b, c, d, rfl, quad, _⟩ := hex4?_cut read
    exact ⟨[a, b, c, d], quad, rfl⟩
  · rintro ⟨ds, quad, rfl⟩
    obtain ⟨a, b, c, d, rfl, _, each⟩ := hex4?_cut quad
    obtain ⟨⟨i, first⟩, ⟨j, second⟩, ⟨k, third⟩, l, fourth⟩ := by simpa using each
    simp only [Quad, hex4?, first, second, third, fourth] at quad
    simp only [List.cons_append, List.nil_append, hex4?, first, second, third, fourth]
    cases quad
    rfl

theorem Quad.length {ds : List Char} {n : Nat} (quad : Quad ds n) : ds.length = 4 := by
  obtain ⟨a, b, c, d, rfl, _⟩ := hex4?_cut quad
  rfl

theorem isVisible_of_digit {d : Char} (digit : d.isDigit = true) : IsVisible d := by
  simp only [Char.isDigit, Bool.and_eq_true, decide_eq_true_eq] at digit
  exact Nat.le_trans (by decide) digit.1

theorem isVisible_of_hexValue? {c : Char} {n : Nat} (digit : hexValue? c = some n) :
    IsVisible c := by
  unfold hexValue? at digit
  split at digit
  · rename_i decimal
    exact isVisible_of_digit decimal
  · split at digit
    · rename_i small
      simp only [Bool.and_eq_true, decide_eq_true_eq] at small
      exact Nat.le_trans (by decide) small.1
    · split at digit
      · rename_i large
        simp only [Bool.and_eq_true, decide_eq_true_eq] at large
        exact Nat.le_trans (by decide) large.1
      · cases digit

theorem Quad.isVisible {ds : List Char} {n : Nat} (quad : Quad ds n) : ∀ d ∈ ds, IsVisible d := by
  obtain ⟨a, b, c, d, rfl, _, each⟩ := hex4?_cut quad
  intro e listed
  obtain ⟨i, digit⟩ := each e listed
  exact isVisible_of_hexValue? digit

/-! ### What a text spells -/

/-- What stands between two quotes, and the characters that it spells. -/
inductive Spells : List Char → List Char → Prop where
  | nil : Spells [] []
  | plain {c : Char} {source spelled : List Char} (visible : 32 ≤ c.toNat) (quote : c ≠ '"')
      (slash : c ≠ '\\') (later : Spells source spelled) : Spells (c :: source) (c :: spelled)
  | short {e c : Char} {source spelled : List Char} (known : escaped? e = some c)
      (later : Spells source spelled) : Spells ('\\' :: e :: source) (c :: spelled)
  | point {ds source spelled : List Char} {n : Nat} (quad : Quad ds n) (whole : ¬IsHalf n)
      (later : Spells source spelled) :
      Spells ('\\' :: 'u' :: (ds ++ source)) (Char.ofNat n :: spelled)
  | pair {ds es source spelled : List Char} {n m : Nat} (quad : Quad ds n) (first : IsFirstHalf n)
      (quad' : Quad es m) (second : IsSecondHalf m) (later : Spells source spelled) :
      Spells ('\\' :: 'u' :: (ds ++ '\\' :: 'u' :: (es ++ source)))
        (Char.ofNat (0x10000 + (n - 0xD800) * 0x400 + (m - 0xDC00)) :: spelled)
  | half {ds source spelled : List Char} {n : Nat} (quad : Quad ds n) (half : IsHalf n)
      (alone : IsFirstHalf n → ∀ es m rest, Quad es m → IsSecondHalf m →
        source ≠ '\\' :: 'u' :: (es ++ rest)) (later : Spells source spelled) :
      Spells ('\\' :: 'u' :: (ds ++ source)) (Char.ofNat 0xFFFD :: spelled)

theorem escaped?_u : escaped? 'u' = none := rfl

theorem Spells.quad {source spelled : List Char} (spells : Spells ('\\' :: 'u' :: source) spelled) :
    ∃ ds n rest, Quad ds n ∧ source = ds ++ rest := by
  generalize written : '\\' :: 'u' :: source = whole at spells
  cases spells with
  | nil => cases written
  | plain _ _ slash _ =>
      injection written with same
      exact absurd same.symm slash
  | short known _ =>
      injection written with _ written
      injection written with same
      rw [← same, escaped?_u] at known
      cases known
  | point quad _ _ =>
      cases written
      exact ⟨_, _, _, quad, rfl⟩
  | pair quad _ _ _ _ =>
      cases written
      exact ⟨_, _, _, quad, rfl⟩
  | half quad _ _ _ =>
      cases written
      exact ⟨_, _, _, quad, rfl⟩

theorem isVisible_of_escaped? {e c : Char} (known : escaped? e = some c) : IsVisible e := by
  have each : ∀ p ∈ [('"', '"'), ('\\', '\\'), ('/', '/'), ('b', Char.ofNat 8),
      ('f', Char.ofNat 12), ('n', '\n'), ('r', '\r'), ('t', '\t')], 32 ≤ p.1.toNat := by
    decide
  obtain ⟨before, after, split, _⟩ := List.lookup_eq_some_iff.mp known
  refine each (e, c) ?_
  rw [split]
  exact List.mem_append_right before List.mem_cons_self

theorem Spells.isVisible {source spelled : List Char} (spells : Spells source spelled) :
    ∀ c ∈ source, IsVisible c := by
  have slash : IsVisible '\\' := by decide
  have letter : IsVisible 'u' := by decide
  induction spells with
  | nil => exact List.forall_mem_nil _
  | plain visible _ _ _ ih => exact List.forall_mem_cons.mpr ⟨visible, ih⟩
  | short known _ ih =>
      exact List.forall_mem_cons.mpr ⟨slash, List.forall_mem_cons.mpr
        ⟨isVisible_of_escaped? known, ih⟩⟩
  | point quad _ _ ih | half quad _ _ _ ih =>
      simp only [List.forall_mem_cons, List.forall_mem_append]
      exact ⟨slash, letter, quad.isVisible, ih⟩
  | pair quad _ quad' _ _ ih =>
      simp only [List.forall_mem_cons, List.forall_mem_append]
      exact ⟨slash, letter, quad.isVisible, slash, letter, quad'.isVisible, ih⟩

/-! ### Reading -/

theorem readText_skip (opened read front rest : List Char) :
    readText opened front.length read (front ++ rest) = readText opened 0 read rest := by
  induction front with
  | nil => rfl
  | cons c front ih => exact ih

theorem readCodePoint_point {ds rest : List Char} {n : Nat} (quad : Quad ds n) (whole : ¬IsHalf n)
    (more : rest ≠ []) : readCodePoint (ds ++ rest) = .ok (Char.ofNat n, 4) := by
  have read : hex4? (ds ++ rest) = some (n, rest) := hex4?_eq_some.mpr ⟨ds, quad, rfl⟩
  have outside : n < 0xD800 ∨ 0xDFFF < n := by
    simp only [IsHalf] at whole
    omega
  have unclosed : rest.isEmpty = false := List.isEmpty_eq_false_iff.mpr more
  simp [readCodePoint, read, unclosed, outside]

theorem readCodePoint_pair {ds es rest : List Char} {n m : Nat} (quad : Quad ds n)
    (first : IsFirstHalf n) (quad' : Quad es m) (second : IsSecondHalf m) (more : rest ≠ []) :
    readCodePoint (ds ++ '\\' :: 'u' :: (es ++ rest)) =
      .ok (Char.ofNat (0x10000 + (n - 0xD800) * 0x400 + (m - 0xDC00)), 10) := by
  have read : hex4? (ds ++ '\\' :: 'u' :: (es ++ rest)) = some (n, '\\' :: 'u' :: (es ++ rest)) :=
    hex4?_eq_some.mpr ⟨ds, quad, rfl⟩
  have read' : hex4? (es ++ rest) = some (m, rest) := hex4?_eq_some.mpr ⟨es, quad', rfl⟩
  have inside : ¬(n < 0xD800 ∨ 0xDFFF < n) := by
    have := first.1
    have := first.2
    omega
  simp [readCodePoint, read, read', inside, first.2, second.1, second.2, more]

theorem readCodePoint_half {ds after : List Char} {n : Nat} (quad : Quad ds n) (half : IsHalf n)
    (more : after ≠ []) (alone : IsFirstHalf n → ∀ second, after = '\\' :: 'u' :: second →
      ∃ m rest, hex4? second = some (m, rest) ∧ ¬IsSecondHalf m) :
    readCodePoint (ds ++ after) = .ok (Char.ofNat 0xFFFD, 4) := by
  have read : hex4? (ds ++ after) = some (n, after) := hex4?_eq_some.mpr ⟨ds, quad, rfl⟩
  have inside : ¬(n < 0xD800 ∨ 0xDFFF < n) := by
    have := half.1
    have := half.2
    omega
  simp only [readCodePoint, read, List.isEmpty_iff, more, if_false, Bool.or_eq_true,
    decide_eq_true_eq, inside]
  split
  · rename_i second
    by_cases first : n < 0xDC00
    · obtain ⟨m, rest, read', other⟩ := alone ⟨half.1, first⟩ second rfl
      have apart : ¬(0xDC00 ≤ m ∧ m ≤ 0xDFFF) := other
      simp only [read', first, Bool.and_eq_true, decide_eq_true_eq, true_and, apart, false_and,
        if_false]
    · cases hex4? second <;> simp [first]
  · rfl

theorem readText_code {front rest : List Char} {c : Char}
    (code : readCodePoint (front ++ rest) = .ok (c, front.length)) (opened read : List Char) :
    readText opened 0 read ('\\' :: 'u' :: (front ++ rest)) =
      readText opened 0 (c :: read) rest := by
  have step : readEscape opened ('u' :: (front ++ rest)) = .ok (c, front.length + 1) := by
    rw [readEscape, code]
    rfl
  rw [readText, step]
  exact readText_skip opened (c :: read) ('u' :: front) rest

theorem Spells.reads {source spelled : List Char} (spells : Spells source spelled)
    (opened read rest : List Char) : readText opened 0 read (source ++ '"' :: rest) =
      .ok (String.ofList (read.reverse ++ spelled), rest) := by
  induction spells generalizing read with
  | nil => simp [readText]
  | @plain c source spelled visible quote slash later ih =>
      have step : readText opened 0 read (c :: (source ++ '"' :: rest)) =
          readText opened 0 (c :: read) (source ++ '"' :: rest) := by
        rw [readText]
        · rw [if_neg (by omega)]
        · exact quote
        · exact slash
      rw [List.cons_append, step, ih]
      simp
  | @short e c source spelled known later ih =>
      have other : e ≠ 'u' := by
        rintro rfl
        cases known
      have step : readEscape opened (e :: (source ++ '"' :: rest)) = .ok (c, 1) := by
        rw [readEscape]
        · rw [known]
        · exact other
      rw [List.cons_append, List.cons_append, readText, step]
      change readText opened 0 (c :: read) (source ++ '"' :: rest) = _
      rw [ih]
      simp
  | @point ds source spelled n quad whole later ih =>
      have code : readCodePoint (ds ++ (source ++ '"' :: rest)) =
          .ok (Char.ofNat n, ds.length) := by
        rw [readCodePoint_point quad whole (by simp), quad.length]
      simp only [List.cons_append, List.append_assoc]
      rw [readText_code code, ih]
      simp
  | @pair ds es source spelled n m quad first quad' second later ih =>
      have code : readCodePoint ((ds ++ '\\' :: 'u' :: es) ++ (source ++ '"' :: rest)) =
          .ok (Char.ofNat (0x10000 + (n - 0xD800) * 0x400 + (m - 0xDC00)),
            (ds ++ '\\' :: 'u' :: es).length) := by
        rw [List.append_assoc, List.cons_append, List.cons_append,
          readCodePoint_pair quad first quad' second (by simp), List.length_append, quad.length,
          List.length_cons, List.length_cons, quad'.length]
      have whole : '\\' :: 'u' :: (ds ++ '\\' :: 'u' :: (es ++ source)) ++ '"' :: rest =
          '\\' :: 'u' :: ((ds ++ '\\' :: 'u' :: es) ++ (source ++ '"' :: rest)) := by
        simp
      rw [whole, readText_code code, ih]
      simp
  | @half ds source spelled n quad half alone later ih =>
      have code : readCodePoint (ds ++ (source ++ '"' :: rest)) =
          .ok (Char.ofNat 0xFFFD, ds.length) := by
        rw [quad.length]
        refine readCodePoint_half quad half (by simp) fun first second follows => ?_
        -- A second half could only come from the text itself, for the closing quote is no digit.
        obtain ⟨source, rfl⟩ : ∃ inner, source = '\\' :: 'u' :: inner := by
          match source with
          | [] => cases follows
          | [c] =>
              injection follows with _ follows
              cases follows
          | c :: d :: inner =>
              injection follows with slash follows
              injection follows with letter _
              exact ⟨inner, by rw [slash, letter]⟩
        obtain ⟨es, m, inner, quad', rfl⟩ := later.quad
        have same : es ++ (inner ++ '"' :: rest) = second := by
          simpa using follows
        refine ⟨m, inner ++ '"' :: rest, hex4?_eq_some.mpr ⟨es, quad', same.symm⟩, fun low => ?_⟩
        exact alone first es m inner quad' low rfl
      simp only [List.cons_append, List.append_assoc]
      rw [readText_code code, ih]
      simp

theorem readCodePoint_eq_ok {cs : List Char} {c : Char} {size : Nat}
    (read : readCodePoint cs = .ok (c, size)) : ∃ ds n after, Quad ds n ∧ cs = ds ++ after ∧
      ((¬IsHalf n ∧ c = Char.ofNat n ∧ size = 4) ∨
        (IsFirstHalf n ∧ ∃ es m rest, Quad es m ∧ IsSecondHalf m ∧
          after = '\\' :: 'u' :: (es ++ rest) ∧
          c = Char.ofNat (0x10000 + (n - 0xD800) * 0x400 + (m - 0xDC00)) ∧ size = 10) ∨
        (IsHalf n ∧ (IsFirstHalf n → ∀ es m rest, Quad es m → IsSecondHalf m → rest ≠ [] →
          after ≠ '\\' :: 'u' :: (es ++ rest)) ∧ c = Char.ofNat 0xFFFD ∧ size = 4)) := by
  unfold readCodePoint at read
  split at read
  · cases read
  · rename_i n after digits
    obtain ⟨ds, quad, rfl⟩ := hex4?_eq_some.mp digits
    refine ⟨ds, n, after, quad, rfl, ?_⟩
    -- The digits write no half of a pair, the first half of a whole pair, or a half by itself.
    split at read
    · cases read
    · split at read
      · rename_i outside
        cases read
        refine .inl ⟨?_, rfl, rfl⟩
        simp only [Bool.or_eq_true, decide_eq_true_eq] at outside
        simp only [IsHalf]
        omega
      · rename_i inside
        have half : IsHalf n := by
          simp only [Bool.or_eq_true, decide_eq_true_eq] at inside
          simp only [IsHalf]
          omega
        split at read
        · rename_i second _
          split at read
          · rename_i m rest digits'
            obtain ⟨es, quad', rfl⟩ := hex4?_eq_some.mp digits'
            split at read
            · rename_i both
              simp only [Except.ok.injEq, Prod.mk.injEq] at read
              simp only [Bool.and_eq_true, decide_eq_true_eq] at both
              obtain ⟨⟨⟨first, low⟩, high⟩, _⟩ := both
              exact .inr (.inl ⟨⟨half.1, first⟩, es, m, rest, quad', ⟨low, high⟩, rfl,
                read.1.symm, read.2.symm⟩)
            · rename_i apart
              cases read
              refine .inr (.inr ⟨half, ?_, rfl, rfl⟩)
              intro first es' m' rest' quad'' second' more same
              have parts : es ++ rest = es' ++ rest' := by simpa using same
              have again := hex4?_eq_some.mpr ⟨es', quad'', parts⟩
              rw [hex4?_eq_some.mpr ⟨es, quad', rfl⟩] at again
              cases again
              simp [first.2, second'.1, second'.2, more] at apart
          · rename_i undigited
            split at read
            · cases read
            · cases read
              refine .inr (.inr ⟨half, ?_, rfl, rfl⟩)
              intro _ es m rest quad' _ _ same
              have parts : second = es ++ rest := by simpa using same
              rw [hex4?_eq_some.mpr ⟨es, quad', parts⟩] at undigited
              cases undigited
        · rename_i unescaped
          cases read
          refine .inr (.inr ⟨half, ?_, rfl, rfl⟩)
          intro _ es m rest _ _ _ same
          exact unescaped _ same

theorem Spells.code {front source spelled rest : List Char} {c : Char}
    (read : readCodePoint (front ++ (source ++ '"' :: rest)) = .ok (c, front.length))
    (later : Spells source spelled) : Spells ('\\' :: 'u' :: (front ++ source)) (c :: spelled) := by
  obtain ⟨ds, n, after, quad, same, kinds⟩ := readCodePoint_eq_ok read
  rcases kinds with ⟨whole, rfl, size⟩ | ⟨first, es, m, tail, quad', second, rfl, value, size⟩ |
    ⟨half, alone, rfl, size⟩
  · obtain ⟨rfl, rfl⟩ := List.append_inj same (size.trans quad.length.symm)
    exact .point quad whole later
  · have written : front ++ (source ++ '"' :: rest) = (ds ++ '\\' :: 'u' :: es) ++ tail := by
      simpa using same
    have long : front.length = (ds ++ '\\' :: 'u' :: es).length := by
      simp [size, quad.length, quad'.length]
    obtain ⟨rfl, rfl⟩ := List.append_inj written long
    rw [value]
    simpa using pair quad first quad' second later
  · obtain ⟨rfl, rfl⟩ := List.append_inj same (size.trans quad.length.symm)
    refine .half quad half (fun first es m inner quad' second written => ?_) later
    exact alone first es m (inner ++ '"' :: rest) quad' second (by simp) (by simp [written])

theorem pos_of_readEscape {opened cs : List Char} {c : Char} {size : Nat}
    (read : readEscape opened cs = .ok (c, size)) : 0 < size := by
  unfold readEscape at read
  split at read
  · cases read
  · obtain ⟨code, _, same⟩ := map_eq_ok.mp read
    cases same
    exact Nat.succ_pos _
  · split at read
    · cases read
      exact Nat.one_pos
    · cases read

theorem Spells.escape {opened front source spelled rest : List Char} {c : Char}
    (read : readEscape opened (front ++ (source ++ '"' :: rest)) = .ok (c, front.length))
    (later : Spells source spelled) : Spells ('\\' :: (front ++ source)) (c :: spelled) := by
  match front, read with
  | [], read => exact absurd (pos_of_readEscape read) (Nat.lt_irrefl 0)
  | e :: front, read =>
      by_cases letter : e = 'u'
      · subst letter
        rw [List.cons_append, readEscape] at read
        obtain ⟨⟨d, size⟩, code, same⟩ := map_eq_ok.mp read
        simp only [Prod.mk.injEq, List.length_cons, Nat.add_right_cancel_iff] at same
        obtain ⟨rfl, rfl⟩ := same
        exact later.code code
      · rw [List.cons_append, readEscape] at read
        · split at read
          · rename_i d known
            simp only [Except.ok.injEq, Prod.mk.injEq, List.length_cons] at read
            obtain ⟨rfl, one⟩ := read
            cases List.length_eq_zero_iff.mp (Nat.succ.inj one).symm
            exact .short known later
          · cases read
        · exact letter

theorem readText_eq_ok {opened read cs rest : List Char} {skip : Nat} {s : String}
    (done : readText opened skip read cs = .ok (s, rest)) :
    ∃ front source spelled, front.length = skip ∧ cs = front ++ (source ++ '"' :: rest) ∧
      Spells source spelled ∧ s = String.ofList (read.reverse ++ spelled) := by
  fun_induction readText opened skip read cs with
  | case1 => cases done
  | case2 skip read c cs ih =>
      obtain ⟨front, source, spelled, long, rfl, spells, same⟩ := ih done
      exact ⟨c :: front, source, spelled, by simp [long], rfl, spells, same⟩
  | case3 read cs =>
      cases done
      exact ⟨[], [], [], rfl, rfl, .nil, by simp⟩
  | case4 read cs c size escape ih =>
      obtain ⟨front, source, spelled, rfl, rfl, spells, same⟩ := ih done
      exact ⟨[], '\\' :: (front ++ source), c :: spelled, rfl, by simp, spells.escape escape,
        by simp [same]⟩
  | case5 => cases done
  | case6 => cases done
  | case7 read c cs quote slash visible ih =>
      obtain ⟨front, source, spelled, none, rfl, spells, same⟩ := ih done
      cases List.length_eq_zero_iff.mp none
      exact ⟨[], c :: source, c :: spelled, rfl, rfl,
        .plain (by omega) quote slash spells, by simp [same]⟩

theorem startText_eq_ok {cs rest : List Char} {s : String} : startText cs = .ok (s, rest) ↔
    ∃ source spelled, Spells source spelled ∧ cs = source ++ '"' :: rest ∧
      s = String.ofList spelled := by
  constructor
  · intro read
    obtain ⟨front, source, spelled, none, rfl, spells, same⟩ := readText_eq_ok read
    cases List.length_eq_zero_iff.mp none
    exact ⟨source, spelled, spells, rfl, same⟩
  · rintro ⟨source, spelled, spells, rfl, rfl⟩
    exact spells.reads _ [] rest

/-! ### Faults -/

def Stop.Exceeds (limit : Option Nat) (fault : Stop) : Prop :=
  ∀ digits, fault.cause = .hugeNumber digits → limit.any (· < digits) = true

theorem stop_failsOnly {α : Type} {limit : Option Nat} {cause : Cause}
    (syntactic : ∀ digits, cause ≠ .hugeNumber digits) (rest : List Char) :
    FailsOnly (Stop.Exceeds limit) (stop cause rest : Except Stop α) :=
  .error fun digits huge => absurd huge (syntactic digits)

theorem readCodePoint_failsOnly (limit : Option Nat) (cs : List Char) :
    FailsOnly (Stop.Exceeds limit) (readCodePoint cs) := by
  have fails (rest : List Char) :
      FailsOnly (Stop.Exceeds limit) (stop .codePoint rest : Except Stop (Char × Nat)) :=
    stop_failsOnly (by simp) rest
  unfold readCodePoint
  split
  · exact fails _
  · split
    · exact fails _
    · split
      · exact .ok _
      · split
        · split
          · split
            · exact .ok _
            · exact .ok _
          · split
            · exact fails _
            · exact .ok _
        · exact .ok _

theorem startText_failsOnly (limit : Option Nat) (cs : List Char) :
    FailsOnly (Stop.Exceeds limit) (startText cs) := by
  have escapes (opened cs : List Char) :
      FailsOnly (Stop.Exceeds limit) (readEscape opened cs) := by
    unfold readEscape
    split
    · exact .error (by simp [Stop.Exceeds])
    · exact (readCodePoint_failsOnly limit _).map _
    · split
      · exact .ok _
      · exact stop_failsOnly (by simp) _
  have run (opened read : List Char) (skip : Nat) (cs : List Char) :
      FailsOnly (Stop.Exceeds limit) (readText opened skip read cs) := by
    fun_induction readText opened skip read cs with
    | case1 => exact .error (by simp [Stop.Exceeds])
    | case2 skip read c cs ih => exact ih
    | case3 read cs => exact .ok _
    | case4 read cs c size escape ih => exact ih
    | case5 read cs fault escape => exact .error (escapes opened cs fault escape)
    | case6 read c cs => exact stop_failsOnly (by simp) _
    | case7 read c cs quote slash visible ih => exact ih
  exact run cs [] 0 cs

end ReleaseAdvisor.Json
