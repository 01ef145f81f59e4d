import ReleaseAdvisor.Grammar.Key

/-!
Normalized option keys. A key in lower case has no capital left to mark, so that normalizing it once
more changes nothing.
-/

namespace ReleaseAdvisor

namespace Text

theorem partnerIn_cases (n : Nat) (runs : List (Nat × Nat × Nat × Nat)) :
    partnerIn n runs = n ∨ ∃ first last step partner, (first, last, step, partner) ∈ runs ∧
      first ≤ n ∧ n ≤ last ∧ (n - first) % step = 0 ∧
      partnerIn n runs = partner + (n - first) := by
  fun_induction partnerIn n runs with
  | case1 => exact .inl rfl
  | case2 => exact .inl rfl
  | case3 first last step partner rest above inside =>
      simp only [Bool.and_eq_true, decide_eq_true_eq, beq_iff_eq] at inside
      exact .inr ⟨first, last, step, partner, List.mem_cons_self, Nat.not_lt.mp above, inside.1,
        inside.2, rfl⟩
  | case4 first last step partner rest above outside ih =>
      rcases ih with same | ⟨first, last, step, partner, listed, found⟩
      · exact .inl same
      · exact .inr ⟨first, last, step, partner, List.mem_cons_of_mem _ listed, found⟩

/-- No lower-case letter of the first run is a capital of the second: their ranges are apart, or
both take every second place and not the same ones. -/
def isApart (r s : Nat × Nat × Nat × Nat) : Bool :=
  r.2.2.2 + (r.2.1 - r.1) < s.1 || s.2.1 < r.2.2.2 ||
    ((r.2.2.1 == 2 || r.1 == r.2.1) && s.2.2.1 == 2 && (r.2.2.2 + s.1) % 2 == 1)

theorem lowerRuns_apart : (lowerRuns.all fun r => lowerRuns.all fun s => isApart r s) = true := by
  decide +kernel

theorem lowerPoint_lowerPoint (n : Nat) : lowerPoint (lowerPoint n) = lowerPoint n := by
  rcases partnerIn_cases n lowerRuns with
    same | ⟨first, last, step, partner, listed, above, below, even, found⟩
  · exact congrArg lowerPoint same
  · have low : lowerPoint n = partner + (n - first) := found
    rcases partnerIn_cases (lowerPoint n) lowerRuns with
      same | ⟨first', last', step', partner', listed', above', below', even', _⟩
    · exact same
    · have apart := List.all_eq_true.mp (List.all_eq_true.mp lowerRuns_apart _ listed) _ listed'
      simp only [isApart, Bool.or_eq_true, Bool.and_eq_true, decide_eq_true_eq, beq_iff_eq]
        at apart
      rw [low] at above' below' even'
      rcases apart with (before | after) | ⟨⟨rfl | rfl, rfl⟩, odd⟩ <;> omega

def IsLow (c : Char) : Prop := lowerPoint c.toNat = c.toNat

instance (c : Char) : Decidable (IsLow c) := inferInstanceAs (Decidable (_ = _))

theorem isLow_ofNat_lowerPoint (n : Nat) : IsLow (Char.ofNat (lowerPoint n)) := by
  by_cases valid : (lowerPoint n).isValidChar
  · have point : (Char.ofNat (lowerPoint n)).toNat = lowerPoint n := by
      rw [Char.ofNat, dif_pos valid]
      rfl
    rw [IsLow, point]
    exact lowerPoint_lowerPoint n
  · rw [Char.ofNat, dif_neg valid]
    decide +kernel

theorem isLow_of_mem_lowerFrom {before cs : List Char} {c : Char}
    (listed : c ∈ lowerFrom before cs) : IsLow c := by
  induction cs generalizing before with
  | nil => cases listed
  | cons first rest ih =>
      rw [lowerFrom] at listed
      rcases List.mem_append.mp listed with own | later
      · revert own
        split
        · intro own
          rcases List.mem_cons.mp own with rfl | own
          · decide +kernel
          · rw [List.mem_singleton.mp own]
            decide +kernel
        · split
          · intro own
            rw [List.mem_singleton.mp own]
            split <;> decide +kernel
          · intro own
            rw [List.mem_singleton.mp own]
            exact isLow_ofNat_lowerPoint _
      · exact ih later

theorem lowerFrom_cons {before rest : List Char} {c : Char} (undotted : c ≠ 'İ') (plain : c ≠ 'Σ') :
    lowerFrom before (c :: rest) =
      Char.ofNat (lowerPoint c.toNat) :: lowerFrom (c :: before) rest := by
  simp only [lowerFrom, beq_eq_false_iff_ne.mpr undotted, beq_eq_false_iff_ne.mpr plain,
    Bool.false_eq_true, if_false]
  rfl

theorem lowerFrom_of_isLow {before cs : List Char} (low : ∀ c ∈ cs, IsLow c) :
    lowerFrom before cs = cs := by
  induction cs generalizing before with
  | nil => rfl
  | cons c cs ih =>
      obtain ⟨own, others⟩ := List.forall_mem_cons.mp low
      have undotted : c ≠ 'İ' := by
        rintro rfl
        revert own
        decide +kernel
      have plain : c ≠ 'Σ' := by
        rintro rfl
        revert own
        decide +kernel
      rw [lowerFrom_cons undotted plain, ih others, own, Char.ofNat_toNat]

theorem IsLow.isUpper {c : Char} (low : IsLow c) : c.isUpper = false := by
  rw [Bool.eq_false_iff]
  intro upper
  have within : 'A'.val ≤ c.val ∧ c.val ≤ 'Z'.val := of_decide_eq_true upper
  rw [UInt32.le_iff_toNat_le, UInt32.le_iff_toNat_le] at within
  have above : ¬c.toNat < 65 := Nat.not_lt.mpr within.1
  have below : c.toNat ≤ 90 := within.2
  have first : lowerPoint c.toNat = 97 + (c.toNat - 65) := by
    rw [lowerPoint, lowerRuns, partnerIn, if_neg above, if_pos (by simp [below, Nat.mod_one])]
  rw [IsLow, first] at low
  omega

end Text

namespace Grammar

theorem markCapitals_of_isLow {cs : List Char} (low : ∀ c ∈ cs, Text.IsLow c) :
    markCapitals cs = cs := by
  induction cs with
  | nil => rfl
  | cons c cs ih =>
      rw [markCapitals, List.flatMap_cons, (low c List.mem_cons_self).isUpper]
      exact congrArg (c :: ·) (ih fun d listed => low d (List.mem_cons_of_mem _ listed))

theorem normalizeChars_of_isLow {cs : List Char} (low : ∀ c ∈ cs, Text.IsLow c) :
    normalizeChars cs = cs := by
  cases cs with
  | nil => rfl
  | cons c rest =>
      have unmarked := markCapitals_of_isLow fun d listed => low d (List.mem_cons_of_mem _ listed)
      rw [normalizeChars, unmarked]
      exact Text.lowerFrom_of_isLow low

theorem isLow_of_mem_normalizeChars {cs : List Char} :
    ∀ c ∈ normalizeChars cs, Text.IsLow c := by
  intro c listed
  cases cs with
  | nil => cases listed
  | cons first rest => exact Text.isLow_of_mem_lowerFrom listed

theorem normalizeKey_normalizeKey (key : String) :
    normalizeKey (normalizeKey key) = normalizeKey key := by
  rw [normalizeKey, normalizeKey, String.toList_ofList,
    normalizeChars_of_isLow isLow_of_mem_normalizeChars]

end Grammar

end ReleaseAdvisor
