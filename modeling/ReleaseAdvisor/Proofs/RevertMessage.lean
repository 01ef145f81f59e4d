import ReleaseAdvisor.Proofs.Key
import ReleaseAdvisor.Proofs.Matching
import ReleaseAdvisor.Proofs.Spans
import ReleaseAdvisor.Proofs.Usual

/-!
Messages of reverts under the usual grammar. Version control quotes the header of the commit that
is reverted and names its hash; such a message describes just that commit, and the two drop out
together.
-/

namespace ReleaseAdvisor

open Pattern

def revertStart : List Char := "Revert".toList

def trailerStart : List Char := "This reverts commit ".toList

/-- The text says, up to case, that it reverts a commit: a hash, which may be empty, and a full stop
follow the words. -/
def IsTrailer (text : List Char) : Prop :=
  ∃ start hash, text = start ++ (hash ++ ['.']) ∧ SameLetters .full trailerStart start ∧
    ∀ x ∈ hash, Text.isWordChar x = true

def trailerText (hash rest : List Char) : List Char :=
  '"' :: '\n' :: '\n' :: (trailerStart ++ (hash ++ '.' :: rest))

def revertText (header hash rest : List Char) : List Char :=
  revertStart ++ ' ' :: '"' :: (header ++ trailerText hash rest)

namespace Grammar

/-! ### The pattern -/

def quoteTest : Test := .point '"'.toNat .full

def blankTest : Test := .oneOf [.named .blank false true] true .full

def anyTest : Test := .oneOf [.named .blank false true, .named .blank false false] true .full

def trailerNodes : List Node :=
  .many quoteTest 0 (some 1) .greedy :: .many blankTest 0 none .greedy ::
    (Node.literal .full trailerStart ++
      [.group 2 (.many (wordTest .full) 0 none .greedy), .one (.point '.'.toNat .full)])

theorem defaultRevert_eq : defaultRevert.groups = 2 ∧ defaultRevert.names = [] ∧
    defaultRevert.body = .ofList (.stand .textStart ::
      .either (.ofList (Node.literal .full revertStart))
        (.ofList (Node.literal .full "revert:".toList)) ::
      .one blankTest :: .many quoteTest 0 (some 1) .greedy ::
      .group 1 (.many anyTest 1 none .lazy) :: trailerNodes) := by
  decide +kernel

theorem accepts_anyTest (x : Char) : anyTest.accepts x = true := by
  cases blank : Text.isBlank x <;>
    simp [anyTest, Test.accepts, Member.accepts, Kind.holds, blank]

theorem takes_quote : Takes quoteTest 0 (some 1) ['"'] :=
  takes_optional.mpr (.inr ⟨'"', rfl, by decide +kernel⟩)

theorem takes_feeds : Takes blankTest 0 none ['\n', '\n'] := .of_accepted (by decide +kernel)

theorem run_trailerNodes (front : List Char) (caps : Captures) {hash : List Char}
    (words : ∀ x ∈ hash, Text.isWordChar x = true) (rest : List Char) :
    ∃ c, (Node.ofList trailerNodes).run (.between front (trailerText hash rest)) caps finish =
      some (c, (2, .taken hash ('.' :: rest)) :: caps) := by
  refine ⟨.between (front ++ ['"'] ++ ['\n', '\n'] ++ trailerStart ++ hash ++ ['.']) rest, ?_⟩
  have noBlank : ∀ x ∈ (trailerStart ++ (hash ++ '.' :: rest)).head?,
      blankTest.accepts x = false := by
    have first : trailerStart.head? = some 'T' := by decide +kernel
    rw [List.head?_append, first]
    simp only [Option.some_or, Option.mem_some_iff, forall_eq']
    decide +kernel
  have noWord : ∀ x ∈ ('.' :: rest).head?, (wordTest .full).accepts x = false := by
    simp only [List.head?_cons, Option.mem_some_iff, forall_eq', accepts_wordTest]
    decide +kernel
  rw [trailerNodes, Node.run_cons]
  refine Node.run_greedy_all (u := ['"']) (v := '\n' :: '\n' :: (trailerStart ++ _)) rfl takes_quote
    (.inr rfl) ?_
  rw [Node.run_cons]
  refine Node.run_greedy_all (u := ['\n', '\n']) (v := trailerStart ++ _) rfl takes_feeds
    (.inl noBlank) ?_
  rw [Node.run_literal (SameLetters.refl _ _), Node.run_cons, Node.run_group]
  refine Node.run_greedy_all rfl (takes_word .full words) (.inl noWord) ?_
  rw [Cursor.upTo_between, Node.ofList, Node.run_one, if_pos (by decide +kernel)]
  rfl

theorem eq_of_same_stop {x : Char} (same : Folding.full.same '.'.toNat x.toNat = true) :
    x = '.' := by
  have alone : Text.siblings (Text.lowerPoint '.'.toNat) = ['.'.toNat] := by decide +kernel
  have low : Text.lowerPoint x.toNat = '.'.toNat := by
    rw [Folding.same, alone] at same
    simpa using same
  have above : ∀ run ∈ Text.lowerRuns, '.'.toNat < run.2.2.2 := by decide +kernel
  rcases Text.partnerIn_cases x.toNat Text.lowerRuns with
    kept | ⟨first, last, step, partner, listed, _, _, _, found⟩
  · exact Char.toNat_inj.mp (kept.symm.trans low)
  · have big : '.'.toNat < partner := above _ listed
    have lowered : Text.lowerPoint x.toNat = partner + (x.toNat - first) := found
    omega

theorem quote_not_mem {start hash gap : List Char} (same : SameLetters .full trailerStart start)
    (words : ∀ x ∈ hash, (wordTest .full).accepts x = true)
    (blanks : ∀ x ∈ gap, blankTest.accepts x = true) : '"' ∉ gap ∧ '"' ∉ start ∧ '"' ∉ hash := by
  have letters : ∀ c ∈ trailerStart, Folding.full.same c.toNat '"'.toNat = false := by
    decide +kernel
  have tests : blankTest.accepts '"' = false ∧ (wordTest .full).accepts '"' = false := by
    decide +kernel
  refine ⟨fun inside => ?_, fun inside => ?_, fun inside => ?_⟩
  · exact absurd (blanks _ inside) (by simp [tests])
  · obtain ⟨c, listed, alike⟩ := same.exists_of_mem inside
    rw [letters c listed] at alike
    cases alike
  · exact absurd (words _ inside) (by simp [tests])

theorem exists_trailer {front header later : List Char} {caps : Captures} {o : Outcome}
    (more : header ≠ [])
    (found : (Node.ofList trailerNodes).run (.between front (header ++ '"' :: later)) caps finish =
      some o) : ∃ part, part <:+: header ∧ IsTrailer part := by
  rw [trailerNodes, Node.run_cons] at found
  obtain ⟨quote, rest, cut, quoted, found⟩ := Node.exists_of_run_many found
  rw [Node.run_cons] at found
  obtain ⟨gap, rest, rfl, blanks, found⟩ := Node.exists_of_run_many found
  obtain ⟨start, rest, rfl, same, found⟩ := Node.exists_of_run_literal found
  rw [Node.run_cons, Node.run_group] at found
  obtain ⟨hash, rest, rfl, words, found⟩ := Node.exists_of_run_many found
  obtain ⟨stop, rest, rfl, stops, _⟩ := Node.exists_of_run_one found
  obtain rfl := eq_of_same_stop stops
  have absent := quote_not_mem same words.accepted blanks.accepted
  -- At most one character is taken for a quote, so it is one of the header.
  obtain ⟨left, rfl, atGap⟩ : ∃ left, header = quote ++ left ∧
      gap ++ (start ++ (hash ++ '.' :: rest)) = left ++ '"' :: later := by
    rcases takes_optional.mp quoted with rfl | ⟨x, rfl, _⟩
    · exact ⟨header, rfl, cut.symm⟩
    · obtain ⟨y, left, rfl⟩ := List.exists_cons_of_ne_nil more
      obtain ⟨rfl, same⟩ := List.cons.inj cut
      exact ⟨left, rfl, same.symm⟩
  obtain ⟨left, rfl, atStart⟩ := exists_of_absent atGap absent.1
  obtain ⟨left, rfl, atHash⟩ := exists_of_absent atStart absent.2.1
  obtain ⟨left, rfl, atStop⟩ := exists_of_absent atHash absent.2.2
  obtain ⟨left, rfl, _⟩ := exists_of_absent (u := ['.']) atStop (by decide)
  refine ⟨start ++ (hash ++ ['.']), ⟨quote ++ gap, left, by simp⟩, start, hash, rfl, same,
    fun x inside => ?_⟩
  rw [← accepts_wordTest .full]
  exact words.accepted x inside

theorem match?_revertText {header hash : List Char} (more : header ≠ [])
    (plain : ∀ part, part <:+: header → ¬IsTrailer part)
    (words : ∀ x ∈ hash, Text.isWordChar x = true) (rest : List Char) :
    defaultRevert.match? (revertText header hash rest) = some [some header, some hash] := by
  have takes : Takes anyTest 1 none header :=
    ⟨fun x _ => accepts_anyTest x, List.length_pos_iff.mpr more, by simp⟩
  have run : ∃ c, defaultRevert.body.run (.between [] (revertText header hash rest)) [] finish =
      some (c, [(2, .taken hash ('.' :: rest)), (1, .taken header (trailerText hash rest))]) := by
    obtain ⟨c, goes⟩ := run_trailerNodes (revertStart ++ [' '] ++ ['"'] ++ header)
      [(1, .taken header (trailerText hash rest))] words rest
    refine ⟨c, ?_⟩
    rw [defaultRevert_eq.2.2, Node.run_textStart, revertText, Node.run_cons, Node.run_either]
    refine Option.or_eq_some_iff.mpr (.inl ?_)
    rw [Node.run_word .full revertStart []]
    change (Node.ofList _).run (.between revertStart _) [] finish = _
    rw [Node.run_cons, Node.run_one, if_pos (by decide +kernel), Node.run_cons]
    refine Node.run_greedy_all (u := ['"']) (v := header ++ trailerText hash rest) rfl takes_quote
      (.inr rfl) ?_
    rw [Node.run_cons, Node.run_group]
    refine Node.run_lazy rfl takes ?_ fun u' v' cut takes' shorter => ?_
    · rw [Cursor.upTo_between]
      exact goes
    · -- With less of the header, a trailer would stand in the rest of it.
      rw [Option.eq_none_iff_forall_ne_some]
      intro o found
      obtain ⟨x, left, rfl, rfl⟩ := exists_of_longer cut.symm shorter
      rw [trailerText] at found
      obtain ⟨part, ⟨before, after, within⟩, trailer⟩ :=
        exists_trailer (List.cons_ne_nil x left) found
      exact plain part ⟨u' ++ before, after, by rw [← within]; simp⟩ trailer
  obtain ⟨c, run⟩ := run
  rw [Regex.match?_of_run run, defaultRevert_eq.1]
  simp [List.range_succ, List.lookup_cons]

end Grammar

/-! ### Commits -/

def description (header start : List Char) : Entries :=
  [(.text "header", .ofChars header), (.text "hash", .ofChars start)]

/-- The revert describes the commit by its header and the start of its hash. So it reverts the
commit, and the two drop out together, whichever of them is listed first. -/
structure Commit.IsUndoneBy (c r : Commit) (header start : List Char) : Prop where
  described : r.revert = .mapping (description header start)
  reverted : ∀ m n, m ≠ n → (Marked.mk m c).isRevertedBy ⟨n, r⟩ = .ok true
  gone : ∀ m n, m ≠ n → Marked.withoutReverted [⟨m, c⟩, ⟨n, r⟩] = .ok [] ∧
    Marked.withoutReverted [⟨n, r⟩, ⟨m, c⟩] = .ok []

theorem Value.truthy_ofChars {cs : List Char} (more : cs ≠ []) : (ofChars cs).truthy = true := by
  simp [ofChars, truthy, more]

namespace Commit

theorem sameHash_start {hash : String} {start : List Char} (more : start ≠ [])
    (starts : start <+: hash.toList) : sameHash (.text hash) (.ofChars start) = .ok true := by
  have full : (Value.text hash).truthy = true := by
    rw [← String.ofList_toList (s := hash)]
    exact Value.truthy_ofChars fun none => more (List.prefix_nil.mp (none ▸ starts))
  have starts' : start.isPrefixOf hash.toList = true := List.isPrefixOf_iff_prefix.mpr starts
  have full' := Value.truthy_ofChars more
  rw [Value.ofChars] at full' ⊢
  simp [sameHash, full, full', starts']

theorem agrees_description {c : Commit} {hash : String} {header start : List Char}
    (headed : c.field "header" = .ofChars header) (hashed : c.hash = .text hash)
    (more : start ≠ []) (starts : start <+: hash.toList) :
    c.agrees (description header start) = .ok true := by
  have apart : (Value.text "header").same (.text "hash") = false := by decide +kernel
  have same : (c.get (.text "header")).same (.ofChars header) = true := Value.same_text.mpr headed
  have hash : c.agrees [(.text "hash", .ofChars start)] = .ok true := by
    have named : (Value.text "hash").same (.text "hash") = true := Value.same_text.mpr rfl
    simp only [agrees, Value.truthy_ofChars more, named, hashed, sameHash_start more starts]
    rfl
  rw [description, agrees, apart, same, hash]
  simp

theorem isUndoneBy_of_described {c r : Commit} {hash : String} {header start : List Char}
    (first : c.IsComparable) (second : r.IsComparable)
    (headed : c.field "header" = .ofChars header) (hashed : c.hash = .text hash)
    (more : start ≠ []) (starts : start <+: hash.toList)
    (described : r.revert = .mapping (description header start)) :
    c.IsUndoneBy r header start := by
  have reverted (m n : Nat) (differ : m ≠ n) :
      (Marked.mk m c).isRevertedBy ⟨n, r⟩ = .ok true := by
    rw [Marked.isRevertedBy, if_neg differ, isDescribedBy, described]
    exact agrees_description headed hashed more starts
  refine ⟨described, reverted, fun m n differ => ?_⟩
  have forth := Marked.isRevertedBy_returns ⟨m, c⟩ ⟨n, r⟩ first second
  have back := Marked.isRevertedBy_returns ⟨n, r⟩ ⟨m, c⟩ second first
  exact ⟨Marked.withoutReverted_pair forth back (.inl (reverted m n differ)),
    Marked.withoutReverted_pair back forth (.inr (reverted m n differ))⟩

end Commit

namespace Grammar

theorem HasUsualParts.revert_eq {g : Grammar} (usual : g.HasUsualParts) {parts : Parts}
    {header start rest : List Char} (more : header ≠ [])
    (plain : ∀ part, part <:+: header → ¬IsTrailer part)
    (words : ∀ x ∈ start, Text.isWordChar x = true)
    (found : g.FallsInto (revertText header start rest) parts) (hash : Value) :
    (parts.commit g hash).revert = .mapping (description header start) := by
  have reverted : parts.reverted = some (description header start) := by
    have fields := found.reverted
    rw [usual.revert, usual.revertNames, fieldsOf_unnamed defaultRevert_eq.2.1
      (match?_revertText more plain words rest)] at fields
    rw [← Except.ok.inj fields]
    simp [description, Entries.putAll, Entries.put, Value.same_text, Value.ofGroup]
  rw [Parts.commit_revert, reverted]
  rfl

/-- Reverts under the usual grammar. The message that version control writes for a revert of a
commit describes that commit, by the header that was read and by the start of its hash that is
quoted, unless something in the header says already that it reverts a commit. So one reverts the
other, and both drop out. -/
theorem parse_revertText {g : Grammar} (usual : g.IsUsual) {message hash : String}
    (said : Text.blank message.toList = false)
    (words : ∀ x ∈ hash.toList, Text.isWordChar x = true) :
    ∃ c header, g.parse message (.text hash) = .ok c ∧ c.field "header" = .ofChars header ∧
      ((∀ part, part <:+: header → ¬IsTrailer part) →
        ∀ (start rest : List Char) (other : String), start ≠ [] → start <+: hash.toList →
          ∃ r, g.parse (String.ofList (revertText header start rest)) (.text other) = .ok r ∧
            c.IsUndoneBy r header start) := by
  have parts := usual.parts
  obtain ⟨found, h, later, read, falls, starts⟩ := parts.parse_said (.text hash) said
  have headed := starts.field_header g (.text hash)
  refine ⟨_, h, read, headed, fun plain start rest other more within => ?_⟩
  have written : h ≠ [] := by
    rintro rfl
    cases starts.said
  have letter : 'R' ∈ revertText h start rest := by
    have first : 'R' ∈ revertStart := by decide +kernel
    exact List.mem_append_left _ first
  have said' : Text.blank (String.ofList (revertText h start rest)).toList = false := by
    rw [String.toList_ofList]
    exact List.all_eq_false.mpr ⟨'R', letter, by decide⟩
  obtain ⟨found', _, _, read', falls', _⟩ := parts.parse_said (.text other) said'
  rw [String.toList_ofList] at falls'
  have words' : ∀ x ∈ start, Text.isWordChar x = true := fun x inside =>
    words x (within.subset inside)
  have described := parts.revert_eq written plain words' falls' (.text other)
  exact ⟨_, read', Commit.isUndoneBy_of_described (parse_isComparable read)
    (parse_isComparable read') headed rfl more within described⟩

end Grammar

def Sample.undoing : String := "Revert \"feat: a\"\n\nThis reverts commit 0a1b2c3."

def Sample.undoingHeader : List Char := "Revert \"feat: a\"".toList

open Sample

/-- A revert can be reverted, even though its header ends in a quote. -/
theorem Grammar.parse_revertText_twice : ∃ (g : Grammar) (c r : Commit), g.IsUsual ∧
    g.parse undoing (.text "f0e1d2c") = .ok c ∧
    g.parse "Revert \"Revert \"feat: a\"\"\n\nThis reverts commit f0e.\n" (.text "77") = .ok r ∧
    c.IsUndoneBy r undoingHeader "f0e".toList := by
  have ready : ∃ g, compile (.ofLayer []) = .ok g ∧ ∃ c, g.parse undoing (.text "f0e1d2c") = .ok c ∧
      (c.field "header").same (.text (String.ofList undoingHeader)) = true := by
    decide +kernel
  obtain ⟨g, ready, c, read, headed⟩ := ready
  have usual : g.IsUsual := ⟨[], by simp, ready⟩
  have said : Text.blank undoing.toList = false := by decide +kernel
  have words : ∀ x ∈ "f0e1d2c".toList, Text.isWordChar x = true := by decide +kernel
  obtain ⟨c', header, read', headed', undone⟩ := parse_revertText usual said words
  obtain rfl : c = c' := Except.ok.inj (read.symm.trans read')
  have same : Value.text (String.ofList undoingHeader) = .ofChars header :=
    (Value.same_text.mp headed).symm.trans headed'
  obtain rfl : undoingHeader = header := String.ofList_injective (Value.text.inj same)
  -- The header has no full stop, so it has no trailer either.
  have plain : ∀ part, part <:+: undoingHeader → ¬IsTrailer part := by
    rintro _ within ⟨start, hash, rfl, _⟩
    have stop : '.' ∈ undoingHeader := within.subset (by simp)
    exact absurd stop (by decide +kernel)
  obtain ⟨r, again, undone⟩ :=
    undone plain "f0e".toList ['\n'] "77" (by decide +kernel) (by decide +kernel)
  have written : String.ofList (revertText undoingHeader "f0e".toList ['\n']) =
      "Revert \"Revert \"feat: a\"\"\n\nThis reverts commit f0e.\n" := by
    decide +kernel
  rw [written] at again
  exact ⟨g, c, r, usual, read, again, undone⟩

end ReleaseAdvisor
