import ReleaseAdvisor.Proofs.Header
import ReleaseAdvisor.Proofs.HeaderFields

/-!
Breaking headers, whose mark has an exclamation mark. Two patterns read such a header: one finds the
text of the note that it stands for, the other its fields. They cut it at the same place unless a
scope could end once more after the mark. Then the note keeps the whole text, while the subject is
only what follows the last end of a scope.
-/

namespace ReleaseAdvisor

open Pattern

def breakingStart : List Char := '!' :: subjectStart

namespace Grammar

/-! ### The two patterns -/

def conventionalPattern : Regex := known "^(\\w*)(?:\\((.*)\\))?!?: (.*)$"

def breakingPattern : Regex := known "^(\\w*)(?:\\((.*)\\))?!: (.*)$"

def conventionalMark : List Node :=
  .many (.point '!'.toNat .exact) 0 (some 1) .greedy :: Node.literal .exact subjectStart

theorem conventionalPattern_eq :
    conventionalPattern.groups = 3 ∧ conventionalPattern.body = headerNode conventionalMark := by
  decide +kernel

theorem breakingPattern_eq : breakingPattern.groups = 3 ∧
    breakingPattern.body = headerNode (Node.literal .exact breakingStart) := by
  decide +kernel

def conventionalMarks : List (List Char) := [breakingStart, subjectStart]

theorem takesMarks_breakingStart :
    TakesMarks (Node.literal .exact breakingStart) [breakingStart] :=
  takesMarks_literal (by decide) (by decide) (by decide)

theorem takes_bang : Takes (.point '!'.toNat .exact) 0 (some 1) ['!'] :=
  takes_optional.mpr (.inr ⟨'!', rfl, rfl⟩)

theorem takesMarks_conventionalMark : TakesMarks conventionalMark conventionalMarks where
  plain := by decide
  starts mark listed := by
    simp only [conventionalMarks, List.mem_cons, List.not_mem_nil, or_false] at listed
    rcases listed with rfl | rfl
    · exact ⟨'!', subjectStart, rfl, by decide, by decide⟩
    · exact ⟨':', [' '], rfl, by decide, by decide⟩
  run {mark front back caps next o} listed goes := by
    have rest (front : List Char)
        (goes : next (.between (front ++ subjectStart) back) caps = some o) :
        (Node.ofList (Node.literal .exact subjectStart)).run (.between front (subjectStart ++ back))
          caps next = some o := by
      rw [Node.run_word]
      exact goes
    simp only [conventionalMarks, List.mem_cons, List.not_mem_nil, or_false] at listed
    rw [conventionalMark, Node.run_cons]
    rcases listed with rfl | rfl
    · refine Node.run_greedy_all (u := ['!']) rfl takes_bang (.inr rfl) (rest _ ?_)
      rw [List.append_assoc]
      exact goes
    · refine Node.run_greedy_all (u := []) rfl (Takes.nil _ _) (.inl ?_) (rest _ ?_)
      · intro x first
        obtain rfl : ':' = x := Option.some.inj first
        decide
      · rw [List.append_nil]
        exact goes
  taken {front back caps next o} found := by
    rw [conventionalMark, Node.run_cons] at found
    obtain ⟨bang, rest, rfl, takes, found⟩ := Node.exists_of_run_many found
    rw [← List.append_nil (Node.literal .exact subjectStart)] at found
    obtain ⟨start, rest, rfl, same, _⟩ := Node.exists_of_run_literal found
    rw [← same.eq_of_exact]
    rcases takes_optional.mp takes with rfl | ⟨x, rfl, accepted⟩
    · exact ⟨subjectStart, by simp [conventionalMarks], rest, rfl⟩
    · obtain rfl := Node.eq_of_accepts_point accepted
      exact ⟨breakingStart, by simp [conventionalMarks], rest, rfl⟩

theorem conventional_eq {g : Grammar} (ready : compile (.ofLayer conventionalCommits) = .ok g) :
    g.NamesGroups conventionalPattern headNames ∧ g.breakingHeader = some breakingPattern := by
  have made := isMadeOf_of_compile ready
  have given : (Options.ofLayer conventionalCommits).NamesGroups conventionalPattern headNames :=
    ⟨rfl, rfl, by decide +kernel, by decide, by decide, rfl, rfl, rfl, rfl, rfl⟩
  exact ⟨made.namesGroups given, (Except.ok.inj made.breakingHeader).symm⟩

/-! ### Where the header is cut -/

theorem endsScope_conventionalMarks {text : List Char} :
    EndsScope conventionalMarks text ↔ EndsScope [breakingStart] text ∨ scopeEnd <:+: text := by
  simp [EndsScope, conventionalMarks, scopeEnd]

theorem not_mem_markedHeader {type mark text : List Char} {scope : Option (List Char)} {x : Char}
    (absent : x ∉ markedHeader type scope mark text) : x ∉ scope.getD [] ++ text := by
  intro inside
  apply absent
  cases scope <;> simp_all [markedHeader, scopeText]

theorem exists_last_cut {text : List Char} (ends : scopeEnd <:+: text) :
    ∃ front subject, text = front ++ (scopeEnd ++ subject) ∧ ¬scopeEnd <:+: subject := by
  obtain ⟨front, subject, rfl⟩ := ends
  obtain ⟨front', mark, subject', listed, cut, last⟩ :=
    exists_last_scopeEnd (List.mem_singleton_self subjectStart) front subject
  rw [List.mem_singleton.mp listed] at cut
  refine ⟨front', subject', ?_, endsScope_subjectStart.not.mp last⟩
  simpa [scopeEnd] using cut

section Cuts

variable {type text : List Char} {scope : Option (List Char)}
  (words : ∀ x ∈ type, Text.isWordChar x = true)
  (line : '\n' ∉ markedHeader type scope breakingStart text)
  (last : scope.isSome = true → ¬EndsScope [breakingStart] text)

include words line last

theorem match?_breaking : breakingPattern.match? (markedHeader type scope breakingStart text) =
    some [some type, scope, some text] :=
  match?_markedHeader breakingPattern_eq takesMarks_breakingStart words
    (List.mem_singleton_self _) (not_mem_markedHeader line) last

theorem match?_conventional (alone : scope.isSome = true → ¬scopeEnd <:+: text) :
    conventionalPattern.match? (markedHeader type scope breakingStart text) =
      some [some type, scope, some text] := by
  refine match?_markedHeader conventionalPattern_eq takesMarks_conventionalMark words
    List.mem_cons_self (not_mem_markedHeader line) fun given => ?_
  rw [endsScope_conventionalMarks, not_or]
  exact ⟨last given, alone given⟩

theorem match?_conventional_later {first front subject : List Char} (given : scope = some first)
    (cut : text = front ++ (scopeEnd ++ subject)) (alone : ¬scopeEnd <:+: subject) :
    conventionalPattern.match? (markedHeader type scope breakingStart text) =
      some [some type, some (first ++ ')' :: (breakingStart ++ front)), some subject] := by
  have rewritten : markedHeader type scope breakingStart text = markedHeader type
      (some (first ++ ')' :: (breakingStart ++ front))) subjectStart subject := by
    rw [given, cut]
    simp [markedHeader, scopeText, scopeEnd]
  rw [rewritten] at line ⊢
  refine match?_markedHeader conventionalPattern_eq takesMarks_conventionalMark words
    (by simp [conventionalMarks]) (not_mem_markedHeader line) fun _ => ?_
  rw [endsScope_conventionalMarks, not_or]
  refine ⟨?_, alone⟩
  rintro ⟨mark, listed, within⟩
  have part : subject <:+: text := ⟨front ++ scopeEnd, [], by simp [cut]⟩
  exact last (by rw [given]; rfl) ⟨mark, listed, within.trans part⟩

end Cuts

/-- How a breaking header is read that is written with the type, the scope and the text, in which no
scope ends before an exclamation mark. The note has the text. So has the subject, if no scope ends
in the text at all; otherwise it has what follows the last end, and the scope goes on up to there.
-/
structure ReadsBreaking (g : Grammar) (h : Line) (c : Commit) (type : List Char)
    (scope : Option (List Char)) (text : List Char) : Prop where
  written : h = markedHeader type scope breakingStart text
  words : ∀ x ∈ type, Text.isWordChar x = true
  last : scope.isSome = true → ¬EndsScope [breakingStart] text
  header : c.field "header" = .ofChars h
  matched : (g.header.bind fun p => p.match? h).isSome = true
  notes : c.field "notes" = .list [Note.value ⟨"BREAKING CHANGE".toList, text⟩]
  agrees : (scope.isSome = true → ¬scopeEnd <:+: text) →
    c.HasHead (.ofChars type) (.ofGroup scope) (.ofChars text)
  differs : ∀ first front subject, scope = some first → text = front ++ (scopeEnd ++ subject) →
    ¬scopeEnd <:+: subject →
    c.HasHead (.ofChars type) (.ofChars (first ++ ')' :: (breakingStart ++ front)))
      (.ofChars subject)

theorem ofChars_injective {cs ds : List Char} (same : Value.ofChars cs = .ofChars ds) : cs = ds :=
  String.ofList_injective (Value.text.inj same)

theorem ReadsBreaking.subject_iff {g : Grammar} {h : Line} {c : Commit} {type text : List Char}
    {scope : Option (List Char)} (reads : g.ReadsBreaking h c type scope text) :
    c.field "subject" = .ofChars text ↔ (scope.isSome = true → ¬scopeEnd <:+: text) := by
  constructor
  · intro same given ends
    obtain ⟨first, rfl⟩ := Option.isSome_iff_exists.mp given
    obtain ⟨front, subject, cut, last⟩ := exists_last_cut ends
    have shorter := (reads.differs first front subject rfl cut last).subject
    have equal : text = subject := ofChars_injective (same.symm.trans shorter)
    have size := congrArg List.length (cut.trans (congrArg _ (congrArg _ equal.symm)))
    simp only [List.length_append, scopeEnd, List.length_cons] at size
    omega
  · intro plain
    exact (reads.agrees plain).subject

theorem contentOf_notes_of_plain {g : Grammar} {lines : List Line}
    (plain : ∀ line ∈ lines, g.fieldStart? line = none ∧ g.noteStart? line = none) :
    (g.contentOf lines).notes = [] := by
  have fields := segments_of_unmarked fun line listed => (plain line listed).1
  have notes := segments_of_unmarked fun line listed => (plain line listed).2
  simp [contentOf, fields, outsideFields, notes]

theorem ReadsBreaking.cut_eq {g : Grammar} {h : Line} {c : Commit}
    {type text type' text' : List Char} {scope scope' : Option (List Char)}
    (reads : g.ReadsBreaking h c type scope text) (line : '\n' ∉ h)
    (found : breakingPattern.match? h = some [some type', scope', some text']) :
    type' = type ∧ scope' = scope ∧ text' = text := by
  rw [reads.written] at line found
  rw [match?_breaking reads.words line reads.last] at found
  simpa [eq_comm] using found

section Parts

variable {g : Grammar} (ready : compile (.ofLayer conventionalCommits) = .ok g)
  {message : List Char} {parts : Parts} (found : g.FallsInto message parts)
  (said : Text.blank message = false)
  (plain : ∀ line ∈ parts.rest, g.fieldStart? line = none ∧ g.noteStart? line = none)

include ready found said plain

theorem readsBreaking_of_match
    (breaks : (g.breakingHeader.bind fun p => p.match? parts.header).isSome = true)
    (hash : Value) : ∃ type scope text,
      g.ReadsBreaking parts.header (parts.commit g hash) type scope text := by
  obtain ⟨heads, breaking⟩ := conventional_eq ready
  obtain ⟨unmerged, lines⟩ := found.trimLines_eq heads.plain said
  have unstarted : ∀ line ∈ parts.rest, g.fieldStart? line = none :=
    fun line listed => (plain line listed).1
  rw [breaking, Option.bind_some] at breaks
  obtain ⟨type, scope, mark, listed, text, words, last, written⟩ :=
    exists_of_match?_header breakingPattern_eq takesMarks_breakingStart breaks
  obtain rfl := List.mem_singleton.mp listed
  have line : '\n' ∉ markedHeader type scope breakingStart text := by
    rw [← written]
    exact feed_not_mem_of_mem_trimLines (lines ▸ List.mem_cons_self)
  have noted := match?_breaking words line last
  have agrees := match?_conventional words line last
  have differs := @match?_conventional_later _ _ _ words line last
  rw [← written] at noted agrees differs
  refine ⟨type, scope, text, written, words, last, Parts.field_reserved List.mem_cons_self, ?_, ?_,
    fun alone => ?_, fun first front subject given cut alone => ?_⟩
  · rw [heads.header, Option.bind_some]
    -- A scope that ends again in the text is read up to its last end, not the first one.
    by_cases alone : scope.isSome = true → ¬scopeEnd <:+: text
    · rw [agrees alone]
      rfl
    · obtain ⟨given, again⟩ := Classical.not_imp.mp alone
      obtain ⟨first, given⟩ := Option.isSome_iff_exists.mp given
      obtain ⟨front, subject, cut, alone⟩ := exists_last_cut (not_not.mp again)
      rw [differs given cut alone]
      rfl
  · have known : (.text "notes", .list ((parts.notes g).map Note.value)) ∈ parts.reserved g := by
      simp [Parts.reserved]
    have note : g.breakingNote? parts.header = some ⟨"BREAKING CHANGE".toList, text⟩ := by
      rw [breakingNote?, breaking, Option.bind_some, noted]
      rfl
    rw [Parts.field_reserved known, Parts.notes, contentOf_notes_of_plain plain, note]
    rfl
  · exact heads.hasHead_of_match found unmerged unstarted hash (agrees alone)
  · exact heads.hasHead_of_match found unmerged unstarted hash (differs given cut alone)

end Parts

section Messages

variable {g : Grammar} (ready : compile (.ofLayer conventionalCommits) = .ok g) {message : String}
  (hash : Value) (said : Text.blank message.toList = false) {h : Line} {later : List Line}
  (lines : trimLines (Text.lines message.toList) = h :: later)
  (plain : ∀ line ∈ later, g.fieldStart? line = none ∧ g.noteStart? line = none)
  (breaks : (g.breakingHeader.bind fun p => p.match? h).isSome = true)

include ready said lines plain breaks

theorem exists_readsBreaking : ∃ c type scope text,
    g.parse message hash = .ok c ∧ g.ReadsBreaking h c type scope text := by
  obtain ⟨heads, _⟩ := conventional_eq ready
  obtain ⟨parts, _, _, read, found, _⟩ := heads.plain.parse_said hash said
  obtain ⟨_, lines'⟩ := found.trimLines_eq heads.plain said
  obtain ⟨rfl, rfl⟩ := List.cons.inj (lines.symm.trans lines')
  obtain ⟨type, scope, text, reads⟩ := readsBreaking_of_match ready found said plain breaks hash
  exact ⟨_, type, scope, text, read, reads⟩

/-- The header of a message without field lines and note lines, if one of the two patterns takes it
for a breaking one, is matched by the other one as well, and the message has just the one note that
the header stands for. Its text is the subject unless a scope ends in it. -/
theorem parse_breaking : ∃ c type scope text,
    g.parse message hash = .ok c ∧ g.ReadsBreaking h c type scope text ∧
      (c.field "subject" = .ofChars text ↔ (scope.isSome = true → ¬scopeEnd <:+: text)) := by
  obtain ⟨c, type, scope, text, read, reads⟩ :=
    exists_readsBreaking ready hash said lines plain breaks
  exact ⟨c, type, scope, text, read, reads, reads.subject_iff⟩

end Messages

end Grammar

namespace Sample

def dropped : String := "feat(api)!: Drop (a)! and b: c\n\nMore."

def reopened : String := "feat(a)!: b): c"

end Sample

open Sample

namespace Grammar

theorem parse_breaking_dropped : ∃ g c, compile (.ofLayer conventionalCommits) = .ok g ∧
    g.parse dropped (.text "a1") = .ok c ∧ c.field "subject" = .text "Drop (a)! and b: c" ∧
    c.field "notes" =
      .list [Note.value ⟨"BREAKING CHANGE".toList, "Drop (a)! and b: c".toList⟩] := by
  have lines : trimLines (Text.lines dropped.toList) =
      "feat(api)!: Drop (a)! and b: c".toList :: ["", "More."].map String.toList := by
    decide +kernel
  have made : ∃ g, compile (.ofLayer conventionalCommits) = .ok g ∧
      (∀ line ∈ ["", "More."].map String.toList,
        g.fieldStart? line = none ∧ g.noteStart? line = none) ∧
      (g.breakingHeader.bind fun p =>
        p.match? "feat(api)!: Drop (a)! and b: c".toList).isSome = true := by
    decide +kernel
  obtain ⟨g, ready, plain, breaks⟩ := made
  obtain ⟨c, type, scope, text, read, reads, subject⟩ :=
    parse_breaking ready (.text "a1") (by decide +kernel) lines plain breaks
  have cut : breakingPattern.match? "feat(api)!: Drop (a)! and b: c".toList =
      some [some "feat".toList, some "api".toList, some "Drop (a)! and b: c".toList] := by
    decide +kernel
  obtain ⟨rfl, rfl, rfl⟩ := reads.cut_eq (by decide +kernel) cut
  exact ⟨g, c, ready, read, subject.mpr fun _ => by decide +kernel, reads.notes⟩

/-- A scope that ends once more in the text: the note has more than the subject. -/
theorem parse_reopened : ∃ g, compile (.ofLayer conventionalCommits) = .ok g ∧
    (g.breakingHeader.bind fun p => p.match? reopened.toList).isSome = true ∧
    ∃ c, g.parse reopened (.text "") = .ok c ∧ c.field "subject" = .text "c" ∧
      c.field "notes" = .list [Note.value ⟨"BREAKING CHANGE".toList, "b): c".toList⟩] := by
  have made : ∃ g, compile (.ofLayer conventionalCommits) = .ok g ∧
      (g.breakingHeader.bind fun p => p.match? reopened.toList).isSome = true := by
    decide +kernel
  obtain ⟨g, ready, breaks⟩ := made
  have lines : trimLines (Text.lines reopened.toList) = [reopened.toList] := by decide +kernel
  obtain ⟨c, type, scope, text, read, reads⟩ := exists_readsBreaking ready (.text "")
    (by decide +kernel) lines (List.forall_mem_nil _) breaks
  have cut : breakingPattern.match? reopened.toList =
      some [some "feat".toList, some "a".toList, some "b): c".toList] := by
    decide +kernel
  obtain ⟨rfl, rfl, rfl⟩ := reads.cut_eq (by decide +kernel) cut
  have later := reads.differs "a".toList "b".toList "c".toList rfl rfl (by decide +kernel)
  exact ⟨g, ready, breaks, c, read, later.subject, reads.notes⟩

end Grammar
end ReleaseAdvisor
