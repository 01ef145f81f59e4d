import ReleaseAdvisor.Proofs.HeaderFields
import ReleaseAdvisor.Proofs.HeaderPattern

/-!
Headers under the usual grammar. A header is a type, which is a word, with a scope in brackets or
without one, and a subject. Where a scope may end at several places it ends at the last one.
-/

namespace ReleaseAdvisor

open Pattern

def subjectStart : List Char := [':', ' ']

def scopeEnd : List Char := ')' :: subjectStart

def headerText (type : List Char) : Option (List Char) → List Char → List Char
  | none, subject => type ++ (subjectStart ++ subject)
  | some scope, subject => type ++ '(' :: (scope ++ (scopeEnd ++ subject))

namespace Grammar

/-! ### The pattern -/

theorem defaultHeader_eq : defaultHeader.groups = 3 ∧ defaultHeader.names = [] ∧
    defaultHeader.body = headerNode (Node.literal .exact subjectStart) := by
  decide +kernel

theorem takesMarks_subjectStart : TakesMarks (Node.literal .exact subjectStart) [subjectStart] :=
  takesMarks_literal (by decide) (by decide) (by decide)

theorem headerText_eq (type : List Char) (scope : Option (List Char)) (subject : List Char) :
    headerText type scope subject = markedHeader type scope subjectStart subject := by
  cases scope <;> simp [headerText, markedHeader, scopeText, scopeEnd]

theorem endsScope_subjectStart {text : List Char} :
    EndsScope [subjectStart] text ↔ scopeEnd <:+: text := by
  simp [EndsScope, scopeEnd]

theorem match?_headerText {type subject : List Char} {scope : Option (List Char)}
    (words : ∀ x ∈ type, Text.isWordChar x = true) (line : '\n' ∉ headerText type scope subject)
    (last : scope.isSome = true → ¬scopeEnd <:+: subject) :
    defaultHeader.match? (headerText type scope subject) =
      some [some type, scope, some subject] := by
  have inside : '\n' ∉ scope.getD [] ++ subject := by
    intro feed
    apply line
    cases scope <;> simp_all [headerText]
  rw [headerText_eq]
  exact match?_markedHeader ⟨defaultHeader_eq.1, defaultHeader_eq.2.2⟩ takesMarks_subjectStart words
    (List.mem_singleton_self _) inside fun some => endsScope_subjectStart.not.mpr (last some)

theorem exists_of_match? {h : List Char} (matched : (defaultHeader.match? h).isSome = true) :
    ∃ type scope subject, (∀ x ∈ type, Text.isWordChar x = true) ∧
      (scope.isSome = true → ¬scopeEnd <:+: subject) ∧ h = headerText type scope subject := by
  obtain ⟨type, scope, mark, listed, subject, words, last, written⟩ :=
    exists_of_match?_header ⟨defaultHeader_eq.1, defaultHeader_eq.2.2⟩ takesMarks_subjectStart
      matched
  rw [List.mem_singleton.mp listed, ← headerText_eq] at written
  exact ⟨type, scope, subject, words, fun some => endsScope_subjectStart.not.mp (last some),
    written⟩

/-! ### Fields -/

def headNames : List String := ["type", "scope", "subject"]

end Grammar

structure Commit.HasHead (c : Commit) (type scope subject : Value) : Prop where
  type : c.field "type" = type
  scope : c.field "scope" = scope
  subject : c.field "subject" = subject

namespace Grammar

section Fields

variable {g : Grammar} {p : Regex} {text : List Char} {parts : Parts}

section Heads

variable (heads : g.NamesGroups p headNames) (found : g.FallsInto text parts)
  (unmerged : parts.merged = none) (plain : ∀ line ∈ parts.rest, g.fieldStart? line = none)

include heads found unmerged plain

theorem NamesGroups.field_of_plain (hash : Value) {i : Nat} {name : String}
    (named : headNames[i]? = some name) :
    (parts.commit g hash).field name = headerGroup p parts.header i := by
  refine heads.field_eq found unmerged named (fun line listed starts => ?_) hash
  rw [plain line listed] at starts
  cases starts

theorem NamesGroups.hasHead_of_match (hash : Value) {type subject : List Char}
    {scope : Option (List Char)}
    (matched : p.match? parts.header = some [some type, scope, some subject]) :
    (parts.commit g hash).HasHead (.ofChars type) (.ofGroup scope) (.ofChars subject) := by
  constructor
  · rw [heads.field_of_plain found unmerged plain hash (i := 0) rfl, headerGroup, matched]
    rfl
  · rw [heads.field_of_plain found unmerged plain hash (i := 1) rfl, headerGroup, matched]
    rfl
  · rw [heads.field_of_plain found unmerged plain hash (i := 2) rfl, headerGroup, matched]
    rfl

theorem NamesGroups.hasHead_of_no_match (hash : Value) (missed : p.match? parts.header = none) :
    (parts.commit g hash).HasHead .null .null .null := by
  have none {i : Nat} {name : String} (named : headNames[i]? = some name) :
      (parts.commit g hash).field name = .null := by
    rw [heads.field_of_plain found unmerged plain hash named, headerGroup, missed]
    rfl
  exact ⟨none (i := 0) rfl, none (i := 1) rfl, none (i := 2) rfl⟩

end Heads

variable {h : Line} {later : List Line}

theorem HasUsualParts.namesGroups (usual : g.HasUsualParts) :
    g.NamesGroups defaultHeader headNames where
  plain := usual.plainLines
  header := usual.header
  headerNames := usual.headerNames
  unnamed := defaultHeader_eq.2.1
  distinct := by decide
  free := by decide

theorem hasHead_of_match (usual : g.HasUsualParts) (found : g.FallsInto text parts)
    (starts : StartsAt text parts h later) (plain : ∀ line ∈ later, g.fieldStart? line = none)
    (hash : Value) {type subject : List Char} {scope : Option (List Char)}
    (matched : defaultHeader.match? h = some [some type, scope, some subject]) :
    (parts.commit g hash).HasHead (.ofChars type) (.ofGroup scope) (.ofChars subject) :=
  usual.namesGroups.hasHead_of_match found starts.merged
    (fun line listed => plain line (starts.rest.subset listed)) hash (starts.header ▸ matched)

theorem hasHead_of_no_match (usual : g.HasUsualParts) (found : g.FallsInto text parts)
    (starts : StartsAt text parts h later) (plain : ∀ line ∈ later, g.fieldStart? line = none)
    (hash : Value) (missed : defaultHeader.match? h = none) :
    (parts.commit g hash).HasHead .null .null .null :=
  usual.namesGroups.hasHead_of_no_match found starts.merged
    (fun line listed => plain line (starts.rest.subset listed)) hash (starts.header ▸ missed)

end Fields

end Grammar

/-! ### Messages -/

def headWord (h : Line) : List Char := h.takeWhile Text.isWordChar

theorem isWordChar_of_mem_headWord (h : Line) : ∀ x ∈ headWord h, Text.isWordChar x = true :=
  fun _ inside => List.mem_takeWhile_imp inside

theorem headWord_headerText {type : List Char} (words : ∀ x ∈ type, Text.isWordChar x = true)
    (scope : Option (List Char)) (subject : List Char) :
    headWord (headerText type scope subject) = type := by
  have marks : Text.isWordChar ':' = false ∧ Text.isWordChar '(' = false := by decide
  cases scope with
  | none => simp [headWord, headerText, List.takeWhile_append_of_pos words, subjectStart, marks]
  | some scope => simp [headWord, headerText, List.takeWhile_append_of_pos words, marks]

/-- How the fields of a commit come from its header, whose first word is the type: a subject follows
it, or a scope and a subject in which no other scope ends; any other header gives nothing. So the
header can be put together from its fields, if it gives some. -/
structure Commit.ReadsHeader (c : Commit) (h : Line) : Prop where
  header : c.field "header" = .ofChars h
  bare : ∀ subject, h = headerText (headWord h) none subject →
    c.HasHead (.ofChars (headWord h)) .null (.ofChars subject)
  bracketed : ∀ scope subject, h = headerText (headWord h) (some scope) subject →
    ¬scopeEnd <:+: subject →
      c.HasHead (.ofChars (headWord h)) (.ofChars scope) (.ofChars subject)
  other : (∀ subject, h ≠ headerText (headWord h) none subject) →
    (∀ scope subject, h = headerText (headWord h) (some scope) subject → scopeEnd <:+: subject) →
      c.HasHead .null .null .null
  recomposed : c.HasHead .null .null .null ∨ ∃ scope subject,
    c.HasHead (.ofChars (headWord h)) (.ofGroup scope) (.ofChars subject) ∧
      h = headerText (headWord h) scope subject

namespace Grammar

theorem readsHeader_of_startsAt {g : Grammar} (usual : g.HasUsualParts) {text : List Char}
    {parts : Parts} {h : Line} {later : List Line} (found : g.FallsInto text parts)
    (starts : StartsAt text parts h later) (plain : ∀ line ∈ later, g.fieldStart? line = none)
    (hash : Value) : (parts.commit g hash).ReadsHeader h := by
  have line : '\n' ∉ h := by
    intro feed
    cases starts.whole _ feed
  have words := isWordChar_of_mem_headWord h
  have gives (scope : Option (List Char)) (subject : List Char)
      (written : h = headerText (headWord h) scope subject)
      (last : scope.isSome = true → ¬scopeEnd <:+: subject) :
      (parts.commit g hash).HasHead (.ofChars (headWord h)) (.ofGroup scope)
        (.ofChars subject) := by
    have matched := match?_headerText words (written ▸ line) last
    rw [← written] at matched
    exact hasHead_of_match usual found starts plain hash matched
  have written (matched : (defaultHeader.match? h).isSome = true) :
      ∃ scope subject, (scope.isSome = true → ¬scopeEnd <:+: subject) ∧
        h = headerText (headWord h) scope subject := by
    obtain ⟨type, scope, subject, typed, last, rfl⟩ := exists_of_match? matched
    exact ⟨scope, subject, last, by rw [headWord_headerText typed]⟩
  have nothing (missed : ¬(defaultHeader.match? h).isSome = true) :
      (parts.commit g hash).HasHead .null .null .null :=
    hasHead_of_no_match usual found starts plain hash (by simpa using missed)
  refine ⟨starts.field_header g hash, fun subject same => ?_, fun scope subject same last => ?_,
    fun bare bracketed => nothing fun matched => ?_, ?_⟩
  · exact gives none subject same (by simp)
  · exact gives (some scope) subject same fun _ => last
  · obtain ⟨scope, subject, last, same⟩ := written matched
    cases scope with
    | none => exact bare subject same
    | some scope => exact last rfl (bracketed scope subject same)
  · by_cases matched : (defaultHeader.match? h).isSome = true
    · obtain ⟨scope, subject, last, same⟩ := written matched
      exact .inr ⟨scope, subject, gives scope subject same last, same⟩
    · exact .inl (nothing matched)

theorem mem_headerText {type subject : List Char} {scope : Option (List Char)} {x : Char}
    (inside : x ∈ headerText type scope subject) :
    x ∈ type ∨ x ∈ ['(', ')', ':', ' '] ∨ x ∈ scope.getD [] ++ subject := by
  cases scope <;>
    simp only [headerText, subjectStart, scopeEnd, List.mem_append, List.mem_cons,
      List.not_mem_nil, or_false, Option.getD_none, Option.getD_some] at inside ⊢ <;> tauto

theorem isLineEnd_headerText {type subject : List Char} {scope : Option (List Char)}
    (words : ∀ x ∈ type, Text.isWordChar x = true)
    (single : ∀ x ∈ scope.getD [] ++ subject, Text.isLineEnd x = false) :
    ∀ x ∈ headerText type scope subject, Text.isLineEnd x = false := by
  have marks : ∀ x ∈ ['(', ')', ':', ' '], Text.isLineEnd x = false := by decide
  intro x inside
  rcases mem_headerText inside with typed | mark | other
  · rw [Bool.eq_false_iff]
    intro ends
    have word := words x typed
    rw [(Text.of_isLineEnd ends).2] at word
    cases word
  · exact marks x mark
  · exact single x other

/-- Headers under the usual grammar. The first line of a message that is not blank gives its type,
scope and subject, as long as no field line follows it; and a message of one line that is written
from a type, which is a word, with a scope or without one, and a subject gives them back. -/
theorem parse_header {g : Grammar} (usual : g.IsUsual) :
    (∀ (message : String) (hash : Value), Text.blank message.toList = false →
      (∀ line ∈ (saidLines message.toList).tail, g.fieldStart? line = none) →
      ∃ c h, g.parse message hash = .ok c ∧ (saidLines message.toList).head? = some h ∧
        c.ReadsHeader h) ∧
    ∀ (type : List Char) (scope : Option (List Char)) (subject : List Char) (hash : Value),
      (∀ x ∈ type, Text.isWordChar x = true) →
      (∀ x ∈ scope.getD [] ++ subject, Text.isLineEnd x = false) →
      (scope.isSome = true → ¬scopeEnd <:+: subject) →
      ∃ c, g.parse (String.ofList (headerText type scope subject)) hash = .ok c ∧
        c.HasHead (.ofChars type) (.ofGroup scope) (.ofChars subject) := by
  have parts := usual.parts
  constructor
  · intro message hash said plain
    obtain ⟨found, h, later, read, falls, starts⟩ := parts.parse_said hash said
    rw [starts.lines] at plain ⊢
    exact ⟨_, h, read, rfl, readsHeader_of_startsAt parts falls starts plain hash⟩
  · intro type scope subject hash words single last
    have whole := isLineEnd_headerText words single
    -- A header has a colon at least, so that the message is not blank and its only line counts.
    have colon : ':' ∈ headerText type scope subject := by
      cases scope <;> simp [headerText, subjectStart, scopeEnd]
    have said : Text.blank (headerText type scope subject) = false :=
      List.all_eq_false.mpr ⟨':', colon, by decide⟩
    have lines : saidLines (headerText type scope subject) = [headerText type scope subject] := by
      rw [saidLines, Text.lines_single (List.ne_nil_of_mem colon) whole, List.dropWhile_cons, said]
      rfl
    have said' : Text.blank (String.ofList (headerText type scope subject)).toList = false := by
      rw [String.toList_ofList]
      exact said
    obtain ⟨found, h, later, read, falls, starts⟩ := parts.parse_said hash said'
    rw [String.toList_ofList] at falls starts
    obtain ⟨rfl, rfl⟩ := List.cons.inj (lines.symm.trans starts.lines)
    have line : '\n' ∉ headerText type scope subject := by
      intro feed
      cases whole _ feed
    exact ⟨_, read, hasHead_of_match parts falls starts (List.forall_mem_nil _) hash
      (match?_headerText words line last)⟩

end Grammar

def Sample.nested : String := " \nfeat(a)(b): c): d: e\n-\nBody"

open Sample

/-- The scope ends at the last place where it can. -/
theorem Grammar.parse_header_nested : ∃ g : Grammar, g.IsUsual ∧
    (∃ c, g.parse nested (.text "a1") = .ok c ∧ c.HasHead (.ofChars "feat".toList)
      (.ofChars "a)(b): c".toList) (.ofChars "d: e".toList)) ∧
    ∃ c, g.parse (String.ofList (headerText "fix".toList none "a): b".toList)) (.text "b2") =
      .ok c ∧ c.HasHead (.ofChars "fix".toList) .null (.ofChars "a): b".toList) := by
  have ready : ∃ g, compile (.ofLayer angular) = .ok g ∧
      ∀ line ∈ (saidLines nested.toList).tail, g.fieldStart? line = none := by
    decide +kernel
  obtain ⟨g, ready, plain⟩ := ready
  have usual : g.IsUsual := ⟨angular, by simp, ready⟩
  have first : (saidLines nested.toList).head? = some "feat(a)(b): c): d: e".toList := by
    decide +kernel
  obtain ⟨c, h, read, start, reads⟩ :=
    (parse_header usual).1 nested (.text "a1") (by decide +kernel) plain
  have same : h = "feat(a)(b): c): d: e".toList := Option.some.inj (start.symm.trans first)
  have head := reads.bracketed "a)(b): c".toList "d: e".toList (by rw [same]; decide +kernel)
    (by decide +kernel)
  have word : headWord h = "feat".toList := by rw [same]; decide +kernel
  rw [word] at head
  have back := (parse_header usual).2 "fix".toList none "a): b".toList (.text "b2")
    (by decide +kernel) (by decide +kernel) (by decide +kernel)
  exact ⟨g, usual, ⟨c, read, head⟩, back⟩

end ReleaseAdvisor
