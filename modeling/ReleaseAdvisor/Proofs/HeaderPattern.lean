import ReleaseAdvisor.Proofs.Spans
import ReleaseAdvisor.Proofs.Text

/-!
Patterns for headers of one shape: a word, a scope in brackets or none, a mark, and a subject up to
the end of the line. They differ in the marks that may stand before the subject. Where a scope may
end at several places it ends at the last one, whichever mark follows it there.
-/

namespace ReleaseAdvisor

open Pattern

def scopeText : Option (List Char) → List Char
  | none => []
  | some scope => '(' :: (scope ++ [')'])

def markedHeader (type : List Char) (scope : Option (List Char)) (mark subject : List Char) :
    List Char :=
  type ++ (scopeText scope ++ (mark ++ subject))

def EndsScope (marks : List (List Char)) (text : List Char) : Prop :=
  ∃ mark ∈ marks, (')' :: mark) <:+: text

instance (marks : List (List Char)) (text : List Char) : Decidable (EndsScope marks text) :=
  inferInstanceAs (Decidable (∃ mark ∈ marks, _))

theorem scopeEnd_occurs {scope scope' mark rest rest' : List Char} (plain : ')' ∉ mark)
    (cut : scope ++ ')' :: (mark ++ rest) = scope' ++ ')' :: rest')
    (longer : scope.length < scope'.length) : (')' :: rest') <:+ rest := by
  obtain ⟨x, more, rfl, later⟩ := exists_of_longer cut longer
  obtain ⟨rfl, tails⟩ := List.cons.inj later
  obtain ⟨more, _, rfl⟩ := exists_of_absent tails plain
  exact ⟨more, rfl⟩

theorem exists_last_scopeEnd {marks : List (List Char)} {mark : List Char} (listed : mark ∈ marks)
    (scope subject : List Char) : ∃ scope' mark' subject', mark' ∈ marks ∧
      scope ++ ')' :: (mark ++ subject) = scope' ++ ')' :: (mark' ++ subject') ∧
      ¬EndsScope marks subject' := by
  induction size : subject.length using Nat.strong_induction_on
    generalizing scope mark subject with
  | _ n ih =>
      by_cases again : EndsScope marks subject
      · obtain ⟨mark', listed', front, back, rfl⟩ := again
        have shorter : back.length < n := by
          rw [← size]
          simp only [List.length_append, List.length_cons]
          omega
        obtain ⟨scope', mark'', subject', listed'', cut, last⟩ :=
          ih _ shorter listed' (scope ++ ')' :: (mark ++ front)) back rfl
        refine ⟨scope', mark'', subject', listed'', ?_, last⟩
        rw [← cut]
        simp only [List.append_assoc, List.cons_append]
      · exact ⟨scope, mark, subject, listed, rfl, again⟩

namespace Grammar

def scopeNode : Node :=
  .ofList [.one (.point '('.toNat .exact), .group 2 (.many .inLine 0 none .greedy),
    .one (.point ')'.toNat .exact)]

def subjectNodes : List Node := [.group 3 (.many .inLine 0 none .greedy), .stand .lastBreak]

def headerNode (nodes : List Node) : Node :=
  .ofList (.stand .textStart :: .group 1 (.many (wordTest .exact) 0 none .greedy) ::
    .loop scopeNode 0 (some 1) .greedy :: (nodes ++ subjectNodes))

/-- The nodes take one of the marks, of which none has a closing bracket or starts like a word or a
scope. -/
structure TakesMarks (nodes : List Node) (marks : List (List Char)) : Prop where
  plain : ∀ mark ∈ marks, ')' ∉ mark
  starts : ∀ mark ∈ marks, ∃ x rest, mark = x :: rest ∧ Text.isWordChar x = false ∧ x ≠ '('
  run : ∀ {mark front back : List Char} {caps : Captures} {next : Next} {o : Outcome},
    mark ∈ marks → next (.between (front ++ mark) back) caps = some o →
      (Node.ofList nodes).run (.between front (mark ++ back)) caps next = some o
  taken : ∀ {front back : List Char} {caps : Captures} {next : Next} {o : Outcome},
    (Node.ofList nodes).run (.between front back) caps next = some o →
      ∃ mark ∈ marks, ∃ rest, back = mark ++ rest

section Runs

variable {nodes : List Node} {marks : List (List Char)} (takes : TakesMarks nodes marks)
  {front back scope mark subject : List Char} {caps : Captures} {o : Outcome}

include takes

theorem run_subject (listed : mark ∈ marks) (line : '\n' ∉ subject) :
    (Node.ofList (nodes ++ subjectNodes)).run (.between front (mark ++ subject)) caps finish =
      some (.between (front ++ mark ++ subject) [], (3, .taken subject []) :: caps) := by
  rw [Node.run_append]
  refine takes.run listed ?_
  rw [subjectNodes, Node.run_cons, Node.run_group]
  refine Node.run_greedy_all (v := []) (List.append_nil subject).symm (takes_inLine line)
    (.inl (by simp)) ?_
  have span := Cursor.upTo_between (front ++ mark) subject []
  rw [List.append_nil] at span
  rw [span]
  rfl

theorem exists_of_run_subject
    (found : (Node.ofList (nodes ++ subjectNodes)).run (.between front back) caps finish = some o) :
    ∃ mark ∈ marks, ∃ subject, back = mark ++ subject := by
  rw [Node.run_append] at found
  exact takes.taken found

theorem run_scope (listed : mark ∈ marks) (line : '\n' ∉ scope ++ subject)
    (last : ¬EndsScope marks subject) :
    scopeNode.run (.between front ('(' :: (scope ++ ')' :: (mark ++ subject)))) caps
        (fun c caps => (Node.ofList (nodes ++ subjectNodes)).run c caps finish) =
      some (.between (front ++ ['('] ++ scope ++ [')'] ++ mark ++ subject) [],
        (3, .taken subject []) :: (2, .taken scope (')' :: (mark ++ subject))) :: caps) := by
  have inside : '\n' ∉ scope ∧ '\n' ∉ subject := by simpa using line
  rw [scopeNode, Node.run_cons, Node.run_one, if_pos (by decide), Node.run_cons, Node.run_group]
  refine Node.run_greedy rfl (takes_inLine inside.1) ?_ fun u v cut _ longer => ?_
  · rw [Cursor.upTo_between, Node.ofList, Node.run_one, if_pos (by decide),
      run_subject takes listed inside.2]
  · -- A longer scope would end where the subject has its own end of a scope.
    rw [Option.eq_none_iff_forall_ne_some]
    intro o found
    obtain ⟨rest, rfl, later⟩ := Node.exists_of_run_point found
    obtain ⟨mark', listed', subject', rfl⟩ := exists_of_run_subject takes later
    have later := scopeEnd_occurs (takes.plain mark listed) cut longer
    have within : (')' :: mark') <:+: ')' :: (mark' ++ subject') := ⟨[], subject', rfl⟩
    exact last ⟨mark', listed', within.trans later.isInfix⟩

theorem exists_of_run_scope (found : scopeNode.run (.between front back) caps
    (fun c caps => (Node.ofList (nodes ++ subjectNodes)).run c caps finish) = some o) :
    ∃ mark ∈ marks, ∃ scope subject, back = '(' :: (scope ++ ')' :: (mark ++ subject)) := by
  rw [scopeNode, Node.run_cons] at found
  obtain ⟨rest, rfl, opened⟩ := Node.exists_of_run_point found
  rw [Node.run_cons, Node.run_group] at opened
  obtain ⟨scope, rest, rfl, _, within⟩ := Node.exists_of_run_many opened
  obtain ⟨rest, rfl, closed⟩ := Node.exists_of_run_point within
  obtain ⟨mark, listed, subject, rfl⟩ := exists_of_run_subject takes closed
  exact ⟨mark, listed, scope, subject, rfl⟩

end Runs

section Matches

variable {r : Regex} {nodes : List Node} {marks : List (List Char)}
  (shape : r.groups = 3 ∧ r.body = headerNode nodes) (takes : TakesMarks nodes marks)

include shape

theorem run_header {type rest : List Char} {o : Outcome}
    (words : ∀ x ∈ type, Text.isWordChar x = true)
    (apart : ∀ x ∈ rest.head?, Text.isWordChar x = false)
    (goes : (scopeNode.run (.between type rest) [(1, .taken type rest)]
        (fun c caps => (Node.ofList (nodes ++ subjectNodes)).run c caps finish)).or
      ((Node.ofList (nodes ++ subjectNodes)).run (.between type rest) [(1, .taken type rest)]
        finish) = some o) : r.body.run (.between [] (type ++ rest)) [] finish = some o := by
  rw [shape.2, headerNode, Node.run_textStart, Node.run_cons, Node.run_group]
  refine Node.run_greedy_all rfl (takes_word .exact words) (.inl fun x first => ?_) ?_
  · rw [accepts_wordTest]
    exact apart x first
  · rw [Cursor.upTo_between, Node.run_cons, Node.run_optional]
    exact goes

theorem exists_of_run_header {h : List Char} {o : Outcome}
    (found : r.body.run (.between [] h) [] finish = some o) :
    ∃ type rest caps, h = type ++ rest ∧ (∀ x ∈ type, Text.isWordChar x = true) ∧
      (scopeNode.run (.between type rest) caps
        (fun c caps => (Node.ofList (nodes ++ subjectNodes)).run c caps finish) = some o ∨
      (Node.ofList (nodes ++ subjectNodes)).run (.between type rest) caps finish = some o) := by
  rw [shape.2, headerNode, Node.run_textStart, Node.run_cons, Node.run_group] at found
  obtain ⟨type, rest, rfl, takes, found⟩ := Node.exists_of_run_many found
  rw [Node.run_cons, Node.run_optional] at found
  have alternatives := (Option.or_eq_some_iff.mp found).imp_right And.right
  refine ⟨type, rest, _, rfl, fun x inside => ?_, alternatives⟩
  rw [← accepts_wordTest .exact]
  exact takes.accepted x inside

include takes

theorem match?_markedHeader {type mark subject : List Char} {scope : Option (List Char)}
    (words : ∀ x ∈ type, Text.isWordChar x = true) (listed : mark ∈ marks)
    (line : '\n' ∉ scope.getD [] ++ subject)
    (last : scope.isSome = true → ¬EndsScope marks subject) :
    r.match? (markedHeader type scope mark subject) = some [some type, scope, some subject] := by
  cases scope with
  | none =>
      obtain ⟨x, rest, rfl, other, bare⟩ := takes.starts mark listed
      have run : r.body.run (.between [] (type ++ (x :: rest ++ subject))) [] finish =
          some (.between (type ++ (x :: rest) ++ subject) [],
            (3, .taken subject []) :: [(1, .taken type (x :: rest ++ subject))]) := by
        refine run_header shape words (by simpa using other) ?_
        -- No scope starts where the mark does.
        have none : (Test.point '('.toNat .exact).accepts x = false := by
          refine beq_eq_false_iff_ne.mpr fun same => bare ?_
          exact (Char.toNat_inj.mp same).symm
        rw [scopeNode, Node.run_cons, List.cons_append, Node.run_one, none]
        exact run_subject takes listed line
      rw [markedHeader, scopeText, List.nil_append, Regex.match?_of_run run, shape.1]
      simp [List.range_succ, List.lookup_cons]
  | some scope =>
      have apart : ∀ x ∈ ('(' :: (scope ++ ')' :: (mark ++ subject))).head?,
          Text.isWordChar x = false := by
        simp
        decide
      have run := run_header shape words apart
        (Option.or_eq_some_iff.mpr (.inl (run_scope takes listed line (last rfl))))
      have written : markedHeader type (some scope) mark subject =
          type ++ '(' :: (scope ++ ')' :: (mark ++ subject)) := by
        simp [markedHeader, scopeText]
      rw [written, Regex.match?_of_run run, shape.1]
      simp [List.range_succ, List.lookup_cons]

theorem exists_of_match?_header {h : List Char} (matched : (r.match? h).isSome = true) :
    ∃ type scope, ∃ mark ∈ marks, ∃ subject, (∀ x ∈ type, Text.isWordChar x = true) ∧
      (scope.isSome = true → ¬EndsScope marks subject) ∧
      h = markedHeader type scope mark subject := by
  obtain ⟨o, run⟩ := Regex.exists_run_of_match? matched
  obtain ⟨type, rest, caps, rfl, words, found | found⟩ := exists_of_run_header shape run
  · obtain ⟨mark, listed, scope, subject, rfl⟩ := exists_of_run_scope takes found
    obtain ⟨scope', mark', subject', listed', cut, last⟩ :=
      exists_last_scopeEnd listed scope subject
    refine ⟨type, some scope', mark', listed', subject', words, fun _ => last, ?_⟩
    simp [markedHeader, scopeText, cut]
  · obtain ⟨mark, listed, subject, rfl⟩ := exists_of_run_subject takes found
    exact ⟨type, none, mark, listed, subject, words, by simp, rfl⟩

end Matches

theorem takesMarks_literal {x : Char} {rest : List Char} (plain : ')' ∉ x :: rest)
    (other : Text.isWordChar x = false) (bare : x ≠ '(') :
    TakesMarks (Node.literal .exact (x :: rest)) [x :: rest] where
  plain mark listed := List.mem_singleton.mp listed ▸ plain
  starts mark listed := ⟨x, rest, List.mem_singleton.mp listed, other, bare⟩
  run listed goes := by
    rw [List.mem_singleton.mp listed] at goes ⊢
    rw [Node.run_word]
    exact goes
  taken {front back caps next o} found := by
    rw [← List.append_nil (Node.literal .exact (x :: rest))] at found
    obtain ⟨mark, later, rfl, same, _⟩ := Node.exists_of_run_literal found
    exact ⟨_, List.mem_singleton_self _, later, by rw [same.eq_of_exact]⟩

end Grammar
end ReleaseAdvisor
