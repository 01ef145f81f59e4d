import Mathlib
import ReleaseAdvisor.Pattern.Reader
import ReleaseAdvisor.Proofs.Key
import ReleaseAdvisor.Proofs.Spans
import ReleaseAdvisor.Proofs.Text

/-!
Spellings of option keys. A key gets its underscores at the places that one pattern matches. Words
in camel case come to the same words joined by underscores, and these stay as they are.
-/

namespace ReleaseAdvisor

namespace Text

/-! ### ASCII in lower case -/

theorem forall_ascii {p : Char → Prop} (points : ∀ n < 128, p (Char.ofNat n)) {c : Char}
    (ascii : c.toNat < 128) : p c := by
  have own := points c.toNat ascii
  rwa [Char.ofNat_toNat] at own

theorem ofNat_lowerPoint {c : Char} (ascii : c.toNat < 128) :
    Char.ofNat (lowerPoint c.toNat) = c.toLower :=
  forall_ascii (p := fun c => Char.ofNat (lowerPoint c.toNat) = c.toLower) (by decide +kernel) ascii

theorem isLow_of_ascii {c : Char} (ascii : c.toNat < 128) (small : c.isUpper = false) :
    IsLow c :=
  forall_ascii (p := fun c => c.isUpper = false → IsLow c) (by decide +kernel) ascii small

theorem lowerFrom_of_ascii {before cs : List Char} (ascii : ∀ c ∈ cs, c.toNat < 128) :
    lowerFrom before cs = cs.map Char.toLower := by
  induction cs generalizing before with
  | nil => rfl
  | cons c cs ih =>
      obtain ⟨own, others⟩ := List.forall_mem_cons.mp ascii
      have undotted : c ≠ 'İ' := by
        rintro rfl
        exact absurd own (by decide)
      have plain : c ≠ 'Σ' := by
        rintro rfl
        exact absurd own (by decide)
      rw [lowerFrom_cons undotted plain, ih others, ofNat_lowerPoint own, List.map_cons]

end Text

namespace Grammar

open Pattern (Anchor Cursor Node Test)

theorem markCapitals_append (cs ds : List Char) :
    markCapitals (cs ++ ds) = markCapitals cs ++ markCapitals ds := List.flatMap_append

theorem ascii_markCapitals {cs : List Char} (ascii : ∀ c ∈ cs, c.toNat < 128) :
    ∀ c ∈ markCapitals cs, c.toNat < 128 := by
  intro d listed
  obtain ⟨c, inside, written⟩ := List.mem_flatMap.mp listed
  split at written
  · rcases List.mem_cons.mp written with rfl | written
    · decide
    · exact List.mem_singleton.mp written ▸ ascii c inside
  · exact List.mem_singleton.mp written ▸ ascii c inside

theorem normalizeChars_of_ascii {c : Char} {rest : List Char}
    (ascii : ∀ d ∈ c :: rest, d.toNat < 128) :
    normalizeChars (c :: rest) = c.toLower :: (markCapitals rest).map Char.toLower := by
  obtain ⟨own, others⟩ := List.forall_mem_cons.mp ascii
  exact Text.lowerFrom_of_ascii (List.forall_mem_cons.mpr ⟨own, ascii_markCapitals others⟩)

/-! ### The places of the underscores -/

def capitalTest : Test := .oneOf [.span 'A'.toNat 'Z'.toNat] true .exact

theorem accepts_capitalTest (c : Char) : capitalTest.accepts c = c.isUpper := by
  have upper : c.isUpper = (decide ('A'.toNat ≤ c.toNat) && decide (c.toNat ≤ 'Z'.toNat)) := by
    simp only [Char.isUpper, UInt32.le_iff_toNat_le, Bool.decide_and]
    rfl
  simp [capitalTest, Test.accepts, Pattern.Member.accepts, upper]

/-- The pattern of the places at which a word starts within a key: not the first one, and before a
capital. -/
def wordStart : Regex where
  source := "(?<!^)(?=[A-Z])"
  flags := {}
  groups := 0
  names := []
  body := .seq (.behind false 0 0 (.stand .textStart)) (.ahead true (.one capitalTest))

theorem read_wordStart : Regex.read "(?<!^)(?=[A-Z])" = .ok wordStart := by decide +kernel

theorem isSome_step?_capitalTest (front back : List Char) :
    ((Cursor.between front back).step? capitalTest).isSome = back.head?.any Char.isUpper := by
  cases back with
  | nil => rfl
  | cons c back =>
      rw [Cursor.step?_between, accepts_capitalTest, List.head?_cons, Option.any_some]
      cases c.isUpper <;> rfl

theorem isSome_matchAt_wordStart (front back : List Char) :
    (wordStart.matchAt (.between front back)).isSome =
      (!front.isEmpty && back.head?.any Char.isUpper) := by
  have start : Anchor.textStart.holds (.between front back) = front.isEmpty := by
    simp [Anchor.holds, Cursor.between]
  rw [← isSome_step?_capitalTest front, Regex.matchAt, Option.isSome_map, wordStart]
  simp only [Node.run, Cursor.back?, start]
  cases front.isEmpty with
  | true => rfl
  | false => cases (Cursor.between front back).step? capitalTest <;> rfl

def separatedFrom (r : Regex) (front : List Char) : List Char → List Char
  | [] => if (r.matchAt (.between front [])).isSome then ['_'] else []
  | c :: rest =>
    (if (r.matchAt (.between front (c :: rest))).isSome then ['_', c] else [c]) ++
      separatedFrom r (front ++ [c]) rest

theorem separatedFrom_wordStart {front : List Char} (inside : front ≠ []) (back : List Char) :
    separatedFrom wordStart front back = markCapitals back := by
  induction back generalizing front with
  | nil => simp [separatedFrom, isSome_matchAt_wordStart, markCapitals]
  | cons c back ih =>
      have moved : front.isEmpty = false := by simpa using inside
      rw [separatedFrom, isSome_matchAt_wordStart, ih (by simp), moved]
      rfl

theorem normalizeChars_eq_separated (cs : List Char) :
    normalizeChars cs = Text.lowerFrom [] (separatedFrom wordStart [] cs) := by
  cases cs with
  | nil => rfl
  | cons c rest =>
      rw [separatedFrom, isSome_matchAt_wordStart, separatedFrom_wordStart (by simp)]
      rfl

/-- A key gets its underscores where one pattern matches, and goes to lower case after that. -/
theorem exists_normalizeKey_eq_lower : ∃ r, Regex.read "(?<!^)(?=[A-Z])" = .ok r ∧
    ∀ key, normalizeKey key = Text.lower (String.ofList (separatedFrom r [] key.toList)) := by
  refine ⟨wordStart, read_wordStart, fun key => ?_⟩
  rw [normalizeKey, normalizeChars_eq_separated, Text.lower, String.toList_ofList]

/-! ### Words -/

/-- A word of a key: ASCII characters, no capital and no underscore among them, a letter first. -/
structure IsWord (word : String) : Prop where
  ascii : ∀ c ∈ word.toList, c.toNat < 128
  starts : ∃ c ∈ word.toList.head?, c.isLower = true
  small : ∀ c ∈ word.toList, c.isUpper = false
  whole : '_' ∉ word.toList

instance (word : String) : Decidable (IsWord word) :=
  decidable_of_iff
    ((∀ c ∈ word.toList, c.toNat < 128) ∧ word.toList.head?.any Char.isLower ∧
      (∀ c ∈ word.toList, c.isUpper = false) ∧ '_' ∉ word.toList)
    ⟨fun ⟨ascii, starts, small, whole⟩ =>
        ⟨ascii, (Option.any_eq_true _ _).mp starts, small, whole⟩,
      fun sound =>
        ⟨sound.ascii, (Option.any_eq_true _ _).mpr sound.starts, sound.small, sound.whole⟩⟩

def capitalized (word : String) : String := String.ofList (word.toList.modifyHead Char.toUpper)

def camelCase : List String → String
  | [] => ""
  | first :: later => first ++ String.join (later.map capitalized)

def snakeCase (words : List String) : String := "_".intercalate words

theorem toList_camelCase (first : String) (later : List String) :
    (camelCase (first :: later)).toList =
      first.toList ++ later.flatMap fun word => (capitalized word).toList := by
  rw [camelCase, String.toList_append, String.toList_join, List.flatMap_map]

theorem toList_mark : "_".toList = ['_'] := by decide +kernel

theorem toList_snakeCase (first : String) (later : List String) :
    (snakeCase (first :: later)).toList =
      first.toList ++ later.flatMap fun word => '_' :: word.toList := by
  induction later generalizing first with
  | nil => simp [snakeCase]
  | cons second later ih =>
      rw [snakeCase, String.intercalate_cons_cons, ← snakeCase, String.toList_append, ih,
        String.toList_append, toList_mark, List.append_assoc]
      rfl

namespace IsWord

variable {word : String}

theorem exists_cons (sound : IsWord word) : ∃ c rest, word.toList = c :: rest ∧
    (capitalized word).toList = c.toUpper :: rest ∧ c.isLower = true := by
  obtain ⟨c, first, letter⟩ := sound.starts
  obtain ⟨rest, text⟩ := List.head?_eq_some_iff.mp first
  refine ⟨c, rest, text, ?_, letter⟩
  rw [capitalized, text, List.modifyHead_cons, String.toList_ofList]

theorem isLow (sound : IsWord word) : ∀ c ∈ word.toList, Text.IsLow c :=
  fun c inside => Text.isLow_of_ascii (sound.ascii c inside) (sound.small c inside)

theorem isLow_tail (sound : IsWord word) {c : Char} {rest : List Char}
    (text : word.toList = c :: rest) : ∀ d ∈ rest, Text.IsLow d :=
  fun d inside => sound.isLow d (text ▸ List.mem_cons_of_mem c inside)

theorem map_toLower (sound : IsWord word) : word.toList.map Char.toLower = word.toList := by
  calc
    word.toList.map Char.toLower = word.toList.map id :=
      List.map_congr_left fun c inside =>
        Char.toLower_eq_of_not_isUpper (by simp [sound.small c inside])
    _ = word.toList := List.map_id _

theorem ascii_capitalized (sound : IsWord word) :
    ∀ c ∈ (capitalized word).toList, c.toNat < 128 := by
  obtain ⟨c, rest, text, raised, _⟩ := sound.exists_cons
  have ascii := sound.ascii
  rw [text, List.forall_mem_cons] at ascii
  have upper : c.toUpper.toNat < 128 :=
    Text.forall_ascii (p := fun c => c.toUpper.toNat < 128) (by decide +kernel) ascii.1
  rw [raised, List.forall_mem_cons]
  exact ⟨upper, ascii.2⟩

theorem markCapitals_capitalized (sound : IsWord word) :
    markCapitals (capitalized word).toList = '_' :: (capitalized word).toList := by
  obtain ⟨c, rest, text, raised, letter⟩ := sound.exists_cons
  have capital : c.toUpper.isUpper = true := by simp [Char.isAlpha, letter]
  rw [raised, markCapitals, List.flatMap_cons, if_pos capital, ← markCapitals,
    markCapitals_of_isLow (sound.isLow_tail text)]
  rfl

theorem map_toLower_capitalized (sound : IsWord word) :
    (capitalized word).toList.map Char.toLower = word.toList := by
  obtain ⟨c, rest, text, raised, _⟩ := sound.exists_cons
  have lower := sound.map_toLower
  rw [text, List.map_cons] at lower
  rw [text, raised, List.map_cons, Char.toLower_toUpper_eq_toLower, lower]

end IsWord

section Words

variable {first : String} {later : List String}

theorem lower_markCapitals_capitalized (sound : ∀ word ∈ later, IsWord word) :
    (markCapitals (later.flatMap fun word => (capitalized word).toList)).map Char.toLower =
      later.flatMap fun word => '_' :: word.toList := by
  induction later with
  | nil => rfl
  | cons word later ih =>
      obtain ⟨own, others⟩ := List.forall_mem_cons.mp sound
      rw [List.flatMap_cons, List.flatMap_cons, markCapitals_append, List.map_append, ih others,
        own.markCapitals_capitalized, List.map_cons, own.map_toLower_capitalized]
      rfl

theorem normalizeChars_camelCase (sound : ∀ word ∈ first :: later, IsWord word) :
    normalizeChars (camelCase (first :: later)).toList = (snakeCase (first :: later)).toList := by
  obtain ⟨own, others⟩ := List.forall_mem_cons.mp sound
  obtain ⟨c, rest, text, _⟩ := own.exists_cons
  have ascii : ∀ d ∈ (camelCase (first :: later)).toList, d.toNat < 128 := by
    intro d inside
    rw [toList_camelCase, List.mem_append, List.mem_flatMap] at inside
    rcases inside with inside | ⟨word, listed, inside⟩
    · exact own.ascii d inside
    · exact (others word listed).ascii_capitalized d inside
  -- Of the first word only what follows its first character is searched, and it has no capital.
  have unmarked := markCapitals_of_isLow (own.isLow_tail text)
  have lower := own.map_toLower
  rw [toList_camelCase, text, List.cons_append] at ascii
  rw [text, List.map_cons] at lower
  rw [toList_camelCase, toList_snakeCase, text, List.cons_append, normalizeChars_of_ascii ascii,
    markCapitals_append, unmarked, List.map_append,
    lower_markCapitals_capitalized others, ← List.cons_append, lower]

theorem isLow_of_mem_snakeCase (sound : ∀ word ∈ first :: later, IsWord word) :
    ∀ c ∈ (snakeCase (first :: later)).toList, Text.IsLow c := by
  obtain ⟨own, others⟩ := List.forall_mem_cons.mp sound
  intro c inside
  rw [toList_snakeCase, List.mem_append, List.mem_flatMap] at inside
  rcases inside with inside | ⟨word, listed, inside⟩
  · exact own.isLow c inside
  · rcases List.mem_cons.mp inside with rfl | inside
    · decide +kernel
    · exact (others word listed).isLow c inside

theorem splitOn_snakeCase (sound : ∀ word ∈ first :: later, IsWord word) :
    (snakeCase (first :: later)).toList.splitOn '_' = (first :: later).map String.toList := by
  rw [snakeCase, String.toList_intercalate, toList_mark]
  refine List.splitOn_intercalate '_' (fun text listed => ?_) (by simp)
  obtain ⟨word, member, rfl⟩ := List.mem_map.mp listed
  exact (sound word member).whole

end Words

/-- Words in camel case and words joined by underscores come to one key, the latter, and what stands
between its underscores are the words again. What any key comes to stays as it is. -/
theorem normalizeKey_spelled :
    (∀ words : List String, words ≠ [] → (∀ word ∈ words, IsWord word) →
      normalizeKey (camelCase words) = snakeCase words ∧
      normalizeKey (snakeCase words) = snakeCase words ∧
      (snakeCase words).toList.splitOn '_' = words.map String.toList) ∧
    ∀ key, normalizeKey (normalizeKey key) = normalizeKey key := by
  refine ⟨fun words given sound => ?_, normalizeKey_normalizeKey⟩
  obtain ⟨first, later, rfl⟩ := List.exists_cons_of_ne_nil given
  refine ⟨?_, ?_, splitOn_snakeCase sound⟩
  · rw [normalizeKey, normalizeChars_camelCase sound, String.ofList_toList]
  · rw [normalizeKey, normalizeChars_of_isLow (isLow_of_mem_snakeCase sound), String.ofList_toList]

theorem normalizeKey_spelled_letters :
    (∀ word ∈ ["note2", "a", "b.c", "d"], IsWord word) ∧
      camelCase ["note2", "a", "b.c", "d"] = "note2AB.cD" ∧
      normalizeKey "note2AB.cD" = "note2_a_b.c_d" ∧
      normalizeKey "note2_a_b.c_d" = "note2_a_b.c_d" := by
  have words : ∀ word ∈ ["note2", "a", "b.c", "d"], IsWord word := by decide +kernel
  have camel : camelCase ["note2", "a", "b.c", "d"] = "note2AB.cD" := by decide +kernel
  have snake : snakeCase ["note2", "a", "b.c", "d"] = "note2_a_b.c_d" := by decide +kernel
  obtain ⟨fromCamel, fromSnake, _⟩ := normalizeKey_spelled.1 _ (List.cons_ne_nil _ _) words
  rw [camel, snake] at fromCamel
  rw [snake] at fromSnake
  exact ⟨words, camel, fromCamel, fromSnake⟩

end Grammar

end ReleaseAdvisor
