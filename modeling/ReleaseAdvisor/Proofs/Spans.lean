import Mathlib.Data.List.Forall2
import ReleaseAdvisor.Pattern.Choice
import ReleaseAdvisor.Pattern.Match

/-!
What the parts of a pattern take of a text. A place is where a text is cut in two. A repetition may
take any accepted characters within its bounds; the one that is tried first takes the most of them,
or the fewest, with which the rest of the pattern goes on.
-/

namespace ReleaseAdvisor

namespace Pattern

/-! ### Places -/

def Cursor.between (front back : List Char) : Cursor := ⟨front.length, front.reverse, back⟩

@[simp] theorem Cursor.between_pos (front back : List Char) :
    (Cursor.between front back).pos = front.length := rfl

theorem Cursor.between_append_cons (front back : List Char) (x : Char) :
    Cursor.between (front ++ [x]) back = ⟨front.length + 1, x :: front.reverse, back⟩ := by
  simp [between]

theorem Cursor.step?_between (test : Test) (front back : List Char) (x : Char) :
    (Cursor.between front (x :: back)).step? test =
      if test.accepts x then some (.between (front ++ [x]) back) else none := by
  rw [between_append_cons]
  rfl

def Span.taken (u back : List Char) : Span := ⟨u ++ back, u.length⟩

@[simp] theorem Span.taken_text (u back : List Char) : (Span.taken u back).text = u := by
  simp [taken, text]

theorem Cursor.upTo_between (front u back : List Char) :
    (Cursor.between front (u ++ back)).upTo (.between (front ++ u) back) = .taken u back := by
  simp [between, upTo, Span.taken]

theorem exists_of_longer {α : Type} {a b c d : List α} (cut : a ++ b = c ++ d)
    (longer : a.length < c.length) : ∃ x more, c = a ++ x :: more ∧ b = x :: (more ++ d) := by
  rcases List.append_eq_append_iff.mp cut with ⟨more, rfl, rfl⟩ | ⟨more, rfl, _⟩
  · cases more with
    | nil => simp at longer
    | cons x more => exact ⟨x, more, rfl, rfl⟩
  · rw [List.length_append] at longer
    omega

theorem exists_of_absent {α : Type} {u v a t : List α} {x : α} (cut : u ++ v = a ++ x :: t)
    (absent : x ∉ u) : ∃ more, a = u ++ more ∧ v = more ++ x :: t := by
  rcases List.append_eq_append_iff.mp cut with ⟨more, rfl, same⟩ | ⟨more, rfl, same⟩
  · exact ⟨more, rfl, same⟩
  · cases more with
    | nil => exact ⟨[], by simp, same.symm⟩
    | cons y more =>
        obtain ⟨rfl, _⟩ := List.cons.inj same
        exact absurd (by simp) absent

/-! ### Repetitions -/

/-- The characters are accepted, and as many as the bounds ask for. -/
structure Takes (test : Test) (least : Nat) (most : Option Nat) (u : List Char) : Prop where
  accepted : ∀ x ∈ u, test.accepts x = true
  least_le : least ≤ u.length
  le_most : ∀ m ∈ most, u.length ≤ m

theorem Takes.of_accepted {test : Test} {u : List Char}
    (accepted : ∀ x ∈ u, test.accepts x = true) : Takes test 0 none u :=
  ⟨accepted, Nat.zero_le _, fun m bound => by cases bound⟩

theorem Takes.nil (test : Test) (most : Option Nat) : Takes test 0 most [] :=
  ⟨List.forall_mem_nil _, Nat.le_refl 0, fun m _ => Nat.zero_le m⟩

theorem takes_optional {test : Test} {u : List Char} :
    Takes test 0 (some 1) u ↔ u = [] ∨ ∃ x, u = [x] ∧ test.accepts x = true := by
  constructor
  · rintro ⟨accepted, _, most⟩
    have single := most 1 rfl
    match u with
    | [] => exact .inl rfl
    | [x] => exact .inr ⟨x, rfl, accepted x (List.mem_singleton_self x)⟩
    | _ :: _ :: _ => simp at single
  · rintro (rfl | ⟨x, rfl, accepted⟩)
    · exact Takes.nil test (some 1)
    · refine ⟨fun y inside => List.mem_singleton.mp inside ▸ accepted, Nat.zero_le _, ?_⟩
      intro most bound
      cases bound
      exact Nat.le_refl 1

theorem takes_cons {test : Test} {room : Option Nat} {x : Char} {u : List Char} :
    Takes test 0 room (x :: u) ↔
      test.accepts x = true ∧ room ≠ some 0 ∧ Takes test 0 (room.map (· - 1)) u := by
  constructor
  · rintro ⟨accepted, _, most⟩
    obtain ⟨first, later⟩ := List.forall_mem_cons.mp accepted
    refine ⟨first, ?_, later, Nat.zero_le _, ?_⟩
    · rintro rfl
      exact absurd (most 0 rfl) (Nat.not_succ_le_zero _)
    · intro m left
      obtain ⟨n, bound, rfl⟩ := Option.map_eq_some_iff.mp left
      have size := most n bound
      rw [List.length_cons] at size
      omega
  · rintro ⟨first, some, accepted, _, most⟩
    refine ⟨List.forall_mem_cons.mpr ⟨first, accepted⟩, Nat.zero_le _, ?_⟩
    intro m bound
    have positive : m ≠ 0 := fun zero => some (by rw [← zero]; exact bound)
    have size := most (m - 1) (Option.map_eq_some_iff.mpr ⟨m, bound, rfl⟩)
    rw [List.length_cons]
    omega

def wordTest (folding : Folding) : Test := .oneOf [.named .word false true] true folding

theorem accepts_wordTest (folding : Folding) (x : Char) :
    (wordTest folding).accepts x = Text.isWordChar x := by
  simp [wordTest, Test.accepts, Member.accepts, Kind.holds]

theorem takes_word (folding : Folding) {u : List Char} (words : ∀ x ∈ u, Text.isWordChar x = true) :
    Takes (wordTest folding) 0 none u :=
  .of_accepted fun x inside => (accepts_wordTest folding x).trans (words x inside)

theorem takes_inLine {u : List Char} (line : '\n' ∉ u) : Takes .inLine 0 none u := by
  refine .of_accepted fun x inside => ?_
  have other : x ≠ '\n' := fun same => line (same ▸ inside)
  simpa [Test.accepts] using other

theorem exists_cut_cons {α : Type} {p : List α → List α → Prop} {x : α} {rest : List α} :
    (∃ u v, x :: rest = u ++ v ∧ p u v) ↔
      p [] (x :: rest) ∨ ∃ u v, rest = u ++ v ∧ p (x :: u) v := by
  constructor
  · rintro ⟨u, v, cut, holds⟩
    rcases List.cons_eq_append_iff.mp cut with ⟨rfl, rfl⟩ | ⟨u, rfl, later⟩
    · exact .inl holds
    · exact .inr ⟨u, v, later, holds⟩
  · rintro (holds | ⟨u, v, rfl, holds⟩)
    · exact ⟨[], x :: rest, rfl, holds⟩
    · exact ⟨x :: u, v, rfl, holds⟩

theorem mem_reachFrom {test : Test} {room : Option Nat} {front back : List Char}
    {seen : List Cursor} {d : Cursor} :
    d ∈ reachFrom test room front.length front.reverse back seen ↔
      d ∈ seen ∨ ∃ u v, back = u ++ v ∧ Takes test 0 room u ∧ d = .between (front ++ u) v := by
  induction back generalizing room front seen with
  | nil =>
      rw [reachFrom, List.mem_cons, or_comm]
      refine or_congr_right ⟨?_, ?_⟩
      · rintro rfl
        exact ⟨[], [], rfl, .nil test room, by rw [List.append_nil]; rfl⟩
      · rintro ⟨u, v, cut, _, rfl⟩
        obtain ⟨rfl, rfl⟩ := List.append_eq_nil_iff.mp cut.symm
        rw [List.append_nil]
        rfl
  | cons x rest ih =>
      -- The text is cut here, or the character is taken and the text is cut later.
      rw [reachFrom, exists_cut_cons]
      simp only [Takes.nil, true_and, List.append_nil, takes_cons]
      split
      · rename_i stop
        have none : ¬(test.accepts x = true ∧ room ≠ some 0) := by
          rintro ⟨accepted, some⟩
          simp [some, accepted] at stop
        simp only [← and_assoc, none, false_and, and_false, exists_false, or_false]
        rw [List.mem_cons]
        exact or_comm
      · rename_i goes
        have goes' : room ≠ some 0 ∧ test.accepts x = true := by simpa using goes
        have step : reachFrom test (room.map (· - 1)) (front.length + 1) (x :: front.reverse) rest
            (.between front (x :: rest) :: seen) =
            reachFrom test (room.map (· - 1)) (front ++ [x]).length (front ++ [x]).reverse rest
              (.between front (x :: rest) :: seen) := by
          simp
        change d ∈ reachFrom test (room.map (· - 1)) (front.length + 1) (x :: front.reverse) rest
          (.between front (x :: rest) :: seen) ↔ _
        rw [step, ih, List.mem_cons, or_assoc, or_left_comm]
        simp only [List.append_assoc, List.singleton_append, goes', ne_eq, not_false_eq_true,
          true_and]

theorem reachFrom_sorted {test : Test} {room : Option Nat} {pos : Nat} {before back : List Char}
    {seen : List Cursor} (sorted : seen.Pairwise fun d e => e.pos < d.pos)
    (earlier : ∀ d ∈ seen, d.pos < pos) :
    (reachFrom test room pos before back seen).Pairwise fun d e => e.pos < d.pos := by
  induction back generalizing room pos before seen with
  | nil => exact List.pairwise_cons.mpr ⟨earlier, sorted⟩
  | cons x rest ih =>
      rw [reachFrom]
      split
      · exact List.pairwise_cons.mpr ⟨earlier, sorted⟩
      · refine ih (List.pairwise_cons.mpr ⟨earlier, sorted⟩) fun d listed => ?_
        rcases List.mem_cons.mp listed with rfl | old
        · exact Nat.lt_succ_self pos
        · exact Nat.lt_succ_of_lt (earlier d old)

theorem takeWhile_eq_filter {stops : List Cursor} (n : Nat)
    (sorted : stops.Pairwise fun d e => e.pos < d.pos) :
    stops.takeWhile (fun d => n ≤ d.pos) = stops.filter fun d => n ≤ d.pos := by
  induction stops with
  | nil => rfl
  | cons d stops ih =>
      obtain ⟨first, later⟩ := List.pairwise_cons.mp sorted
      by_cases far : n ≤ d.pos
      · simp [far, ih later]
      · have none : stops.filter (fun e => n ≤ e.pos) = [] := by
          rw [List.filter_eq_nil_iff]
          intro e listed
          have near := first e listed
          simp only [decide_eq_true_eq]
          omega
        simp [far, none]

section Stops

variable {test : Test} {least : Nat} {most : Option Nat} {front back : List Char}

theorem Cursor.mem_stops {d : Cursor} :
    d ∈ (Cursor.between front back).stops test least most ↔
      ∃ u v, back = u ++ v ∧ Takes test least most u ∧ d = .between (front ++ u) v := by
  have sorted : (reachFrom test most front.length front.reverse back []).Pairwise
      fun d e => e.pos < d.pos := reachFrom_sorted List.Pairwise.nil (by simp)
  have kept : (Cursor.between front back).stops test least most =
      (reachFrom test most front.length front.reverse back []).filter
        fun d => front.length + least ≤ d.pos :=
    takeWhile_eq_filter _ sorted
  rw [kept, List.mem_filter, mem_reachFrom]
  constructor
  · rintro ⟨old | ⟨u, v, rfl, takes, rfl⟩, far⟩
    · cases old
    · have enough : least ≤ u.length := by simpa [between] using far
      exact ⟨u, v, rfl, ⟨takes.accepted, enough, takes.le_most⟩, rfl⟩
  · rintro ⟨u, v, rfl, takes, rfl⟩
    have enough := takes.least_le
    refine ⟨.inr ⟨u, v, rfl, ⟨takes.accepted, Nat.zero_le _, takes.le_most⟩, rfl⟩, ?_⟩
    simpa [between] using enough

theorem Cursor.stops_sorted :
    ((Cursor.between front back).stops test least most).Pairwise fun d e => e.pos < d.pos :=
  (reachFrom_sorted List.Pairwise.nil (by simp)).sublist (List.takeWhile_sublist _)

end Stops

theorem findSome?_of_sorted {α β : Type} {r : α → α → Prop} {items : List α} {f : α → Option β}
    {a : α} {b : β} (sorted : items.Pairwise r) (listed : a ∈ items) (gives : f a = some b)
    (earlier : ∀ x ∈ items, r x a → f x = none) : items.findSome? f = some b := by
  obtain ⟨first, later, rfl⟩ := List.append_of_mem listed
  obtain ⟨_, _, before⟩ := List.pairwise_append.mp sorted
  refine List.findSome?_eq_some_iff.mpr ⟨first, a, later, rfl, gives, fun x member => ?_⟩
  exact earlier x (List.mem_append_left _ member) (before x member a List.mem_cons_self)

namespace Node

section Many

variable {test : Test} {least : Nat} {most : Option Nat} {front back u v : List Char}
  {caps : Captures} {next : Next} {o : Outcome}

theorem run_greedy (cut : back = u ++ v) (takes : Takes test least most u)
    (goes : next (.between (front ++ u) v) caps = some o)
    (longest : ∀ u' v', back = u' ++ v' → Takes test least most u' → u.length < u'.length →
      next (.between (front ++ u') v') caps = none) :
    (Node.many test least most .greedy).run (.between front back) caps next = some o := by
  refine findSome?_of_sorted Cursor.stops_sorted (Cursor.mem_stops.mpr ⟨u, v, cut, takes, rfl⟩) goes
    fun d listed farther => ?_
  obtain ⟨u', v', cut, takes', rfl⟩ := Cursor.mem_stops.mp listed
  refine longest u' v' cut takes' ?_
  simpa using farther

theorem run_lazy (cut : back = u ++ v) (takes : Takes test least most u)
    (goes : next (.between (front ++ u) v) caps = some o)
    (shortest : ∀ u' v', back = u' ++ v' → Takes test least most u' → u'.length < u.length →
      next (.between (front ++ u') v') caps = none) :
    (Node.many test least most .lazy).run (.between front back) caps next = some o := by
  refine findSome?_of_sorted (List.pairwise_reverse.mpr Cursor.stops_sorted)
    (List.mem_reverse.mpr (Cursor.mem_stops.mpr ⟨u, v, cut, takes, rfl⟩)) goes
    fun d listed nearer => ?_
  obtain ⟨u', v', cut, takes', rfl⟩ := Cursor.mem_stops.mp (List.mem_reverse.mp listed)
  refine shortest u' v' cut takes' ?_
  simpa using nearer

theorem run_greedy_all (cut : back = u ++ v) (takes : Takes test least most u)
    (ends : (∀ x ∈ v.head?, test.accepts x = false) ∨ most = some u.length)
    (goes : next (.between (front ++ u) v) caps = some o) :
    (Node.many test least most .greedy).run (.between front back) caps next = some o := by
  subst cut
  refine run_greedy rfl takes goes fun u' v' cut takes' longer => ?_
  rcases ends with ends | full
  · obtain ⟨x, more, rfl, rfl⟩ := exists_of_longer cut longer
    have accepted := takes'.accepted x (by simp)
    rw [ends x rfl] at accepted
    cases accepted
  · have bound := takes'.le_most _ full
    omega

theorem exists_of_run_many {pace : Pace}
    (found : (Node.many test least most pace).run (.between front back) caps next = some o) :
    ∃ u v, back = u ++ v ∧ Takes test least most u ∧
      next (.between (front ++ u) v) caps = some o := by
  have stopped : ∃ d ∈ (Cursor.between front back).stops test least most,
      next d caps = some o := by
    cases pace with
    | greedy => exact List.exists_of_findSome?_eq_some found
    | lazy =>
        obtain ⟨d, listed, goes⟩ := List.exists_of_findSome?_eq_some found
        exact ⟨d, List.mem_reverse.mp listed, goes⟩
    | possessive =>
        obtain ⟨d, first, goes⟩ := Option.bind_eq_some_iff.mp found
        exact ⟨d, List.mem_of_mem_head? first, goes⟩
  obtain ⟨d, listed, goes⟩ := stopped
  obtain ⟨u, v, cut, takes, rfl⟩ := Cursor.mem_stops.mp listed
  exact ⟨u, v, cut, takes, goes⟩

end Many

/-! ### Sequences -/

theorem run_cons (node : Node) (nodes : List Node) (c : Cursor) (caps : Captures) (next : Next) :
    (Node.ofList (node :: nodes)).run c caps next =
      node.run c caps fun c' caps' => (Node.ofList nodes).run c' caps' next := by
  cases nodes with
  | nil => rfl
  | cons second nodes => rfl

theorem run_append (nodes more : List Node) (c : Cursor) (caps : Captures) (next : Next) :
    (Node.ofList (nodes ++ more)).run c caps next =
      (Node.ofList nodes).run c caps fun c' caps' => (Node.ofList more).run c' caps' next := by
  induction nodes generalizing c caps with
  | nil => rfl
  | cons node nodes ih =>
      rw [List.cons_append, run_cons, run_cons]
      simp only [ih]

theorem run_textStart (nodes : List Node) (cs : List Char) (caps : Captures) (next : Next) :
    (Node.ofList (.stand .textStart :: nodes)).run (.between [] cs) caps next =
      (Node.ofList nodes).run (.between [] cs) caps next := by
  rw [run_cons]
  rfl

theorem run_group (index : Nat) (body : Node) (c : Cursor) (caps : Captures) (next : Next) :
    (Node.group index body).run c caps next =
      body.run c caps fun c' caps' => next c' ((index, c.upTo c') :: caps') := rfl

theorem run_one (test : Test) (front back : List Char) (x : Char) (caps : Captures) (next : Next) :
    (Node.one test).run (.between front (x :: back)) caps next =
      if test.accepts x then next (.between (front ++ [x]) back) caps else none := by
  rw [Node.run, Cursor.step?_between]
  split <;> rfl

theorem exists_of_run_one {test : Test} {front back : List Char} {caps : Captures} {next : Next}
    {o : Outcome} (found : (Node.one test).run (.between front back) caps next = some o) :
    ∃ x rest, back = x :: rest ∧ test.accepts x = true ∧
      next (.between (front ++ [x]) rest) caps = some o := by
  cases back with
  | nil => cases found
  | cons x rest =>
      rw [run_one] at found
      split at found
      · rename_i accepted
        exact ⟨x, rest, rfl, accepted, found⟩
      · cases found

theorem eq_of_accepts_point {c x : Char} (accepted : (Test.point c.toNat .exact).accepts x = true) :
    c = x :=
  Char.toNat_inj.mp (beq_iff_eq.mp accepted)

theorem exists_of_run_point {c : Char} {front back : List Char} {caps : Captures} {next : Next}
    {o : Outcome} (found : (Node.one (.point c.toNat .exact)).run (.between front back) caps next =
      some o) : ∃ rest, back = c :: rest ∧ next (.between (front ++ [c]) rest) caps = some o := by
  obtain ⟨x, rest, rfl, accepted, goes⟩ := exists_of_run_one found
  obtain rfl := eq_of_accepts_point accepted
  exact ⟨rest, rfl, goes⟩

theorem run_either (first second : Node) (c : Cursor) (caps : Captures) (next : Next) :
    (Node.either first second).run c caps next =
      (first.run c caps next).or (second.run c caps next) := by
  rw [Node.run]
  cases first.run c caps next <;> rfl

theorem run_optional (body : Node) (c : Cursor) (caps : Captures) (next : Next) :
    (Node.loop body 0 (some 1) .greedy).run c caps next =
      (body.run c caps next).or (next c caps) := by
  have again (c' : Cursor) (caps' : Captures) :
      loopGreedy (fun c s k => body.run c s k) 0 (some 1) 2 1 (some c.pos) c' caps' next =
        next c' caps' := rfl
  change loopGreedy (fun c s k => body.run c s k) 0 (some 1) 3 0 none c caps next = _
  have first : (belowMost 0 (some 1) && (none : Option Nat) != some c.pos) = true := rfl
  rw [loopGreedy, if_neg (Nat.lt_irrefl 0), if_pos first]
  simp only [Nat.zero_add, again]
  cases body.run c caps next <;> rfl

/-! ### Words -/

def literal (folding : Folding) (word : List Char) : List Node :=
  word.map fun c => .one (.point c.toNat folding)

end Node

def SameLetters (folding : Folding) (cs ds : List Char) : Prop :=
  List.Forall₂ (fun c d => folding.same c.toNat d.toNat = true) cs ds

theorem Folding.same_self (folding : Folding) (n : Nat) : folding.same n n = true := by
  cases folding with
  | exact => exact beq_self_eq_true n
  | ascii => exact beq_self_eq_true _
  | full => simp [same, Text.siblings]

theorem SameLetters.refl (folding : Folding) (cs : List Char) : SameLetters folding cs cs :=
  List.forall₂_same.mpr fun c _ => folding.same_self c.toNat

theorem SameLetters.eq_of_exact {cs ds : List Char} (same : SameLetters .exact cs ds) :
    cs = ds := by
  induction same with
  | nil => rfl
  | cons first _ ih => rw [Char.toNat_inj.mp (beq_iff_eq.mp first), ih]

theorem SameLetters.exists_of_mem {folding : Folding} {cs ds : List Char} {d : Char}
    (same : SameLetters folding cs ds) (inside : d ∈ ds) :
    ∃ c ∈ cs, folding.same c.toNat d.toNat = true := by
  induction same with
  | nil => cases inside
  | @cons c _ _ _ first _ ih =>
      rcases List.mem_cons.mp inside with rfl | inside
      · exact ⟨c, List.mem_cons_self, first⟩
      · obtain ⟨c, listed, same⟩ := ih inside
        exact ⟨c, .tail _ listed, same⟩

namespace Node

variable {folding : Folding} {word cs : List Char} {front back : List Char} {caps : Captures}
  {next : Next} {nodes : List Node}

theorem run_literal (same : SameLetters folding word cs) :
    (Node.ofList (literal folding word ++ nodes)).run (.between front (cs ++ back)) caps next =
      (Node.ofList nodes).run (.between (front ++ cs) back) caps next := by
  induction same generalizing front with
  | nil => simp [literal]
  | @cons c d word cs first _ ih =>
      change (Node.ofList (.one (.point c.toNat folding) :: (literal folding word ++ nodes))).run
        (.between front (d :: (cs ++ back))) caps next = _
      have accepted : (Test.point c.toNat folding).accepts d = true := first
      rw [run_cons, run_one, if_pos accepted, ih, List.append_assoc, List.singleton_append]

theorem run_word (folding : Folding) (word front back : List Char) (caps : Captures)
    (next : Next) : (Node.ofList (literal folding word)).run (.between front (word ++ back)) caps
      next = next (.between (front ++ word) back) caps := by
  have run : (Node.ofList (literal folding word ++ [])).run (.between front (word ++ back)) caps
      next = (Node.ofList []).run (.between (front ++ word) back) caps next :=
    run_literal (.refl folding word)
  rw [List.append_nil] at run
  exact run

theorem run_word_of_unlike {folding : Folding} {c x : Char}
    (unlike : folding.same c.toNat x.toNat = false) (word front back : List Char)
    (caps : Captures) (next : Next) :
    (Node.ofList (literal folding (c :: word))).run (.between front (x :: back)) caps next =
      none := by
  have refused : (Test.point c.toNat folding).accepts x = false := unlike
  change (Node.ofList (.one (.point c.toNat folding) :: literal folding word)).run _ caps next = _
  rw [run_cons, run_one, refused]
  rfl

theorem exists_of_run_literal {o : Outcome}
    (found : (Node.ofList (literal folding word ++ nodes)).run (.between front back) caps next =
      some o) :
    ∃ cs rest, back = cs ++ rest ∧ SameLetters folding word cs ∧
      (Node.ofList nodes).run (.between (front ++ cs) rest) caps next = some o := by
  induction word generalizing front back with
  | nil => exact ⟨[], back, rfl, .nil, by rw [List.append_nil]; exact found⟩
  | cons c word ih =>
      change (Node.ofList (.one (.point c.toNat folding) :: (literal folding word ++ nodes))).run
        (.between front back) caps next = _ at found
      rw [run_cons] at found
      obtain ⟨d, later, rfl, accepted, found⟩ := exists_of_run_one found
      obtain ⟨cs, rest, rfl, same, found⟩ := ih found
      refine ⟨d :: cs, rest, rfl, .cons accepted same, ?_⟩
      rwa [List.append_assoc, List.singleton_append] at found

end Node

/-! ### Matches -/

def finish : Next := fun c caps => some (c, caps)

theorem Node.run_atomic (body : Node) (c : Cursor) (caps : Captures) (next : Next) :
    (Node.atomic body).run c caps next =
      (body.run c caps finish).bind fun o => next o.1 o.2 := by
  have kept : (fun c' caps' => some (c', caps') : Next) = finish := rfl
  rw [Node.run, kept]
  cases body.run c caps finish <;> rfl

end Pattern

namespace Regex

open Pattern

variable {r : Regex} {cs : List Char}

theorem match?_of_run {c : Cursor} {caps : Captures}
    (run : r.body.run (.between [] cs) [] finish = some (c, caps)) :
    r.match? cs =
      some ((List.range r.groups).map fun i => (caps.lookup (i + 1)).map Span.text) := by
  change (r.body.run (.between [] cs) [] finish).map _ = _
  rw [run]
  rfl

theorem exists_run_of_match? (matched : (r.match? cs).isSome = true) :
    ∃ o, r.body.run (.between [] cs) [] finish = some o := by
  change ((r.body.run (.between [] cs) [] finish).map _).isSome = true at matched
  rw [Option.isSome_map] at matched
  exact Option.isSome_iff_exists.mp matched

end Regex
end ReleaseAdvisor
