import ReleaseAdvisor.Proofs.Entries
import ReleaseAdvisor.Proofs.RuleFaults
import ReleaseAdvisor.Proofs.Spans

/-!
What globs accept. A text is accepted as a whole if it is made of one part for each piece. The table
of all ends of the text comes to the same, and so does a pattern that takes what stands between two
stars at its first place and never comes back to it.
-/

namespace ReleaseAdvisor.Glob

open Pattern

/-! ### Texts that a glob covers -/

inductive Piece.Takes : Piece → List Char → Prop
  | star (u : List Char) : Takes .star u
  | one {piece : Piece} {c : Char} (accepted : piece.accepts c = true) : Takes piece [c]

/-- The text is made of one part for each piece. -/
def Covers (pieces : List Piece) (cs : List Char) : Prop :=
  ∃ parts, List.Forall₂ Piece.Takes pieces parts ∧ parts.flatten = cs

theorem covers_nil {cs : List Char} : Covers [] cs ↔ cs = [] := by
  constructor
  · rintro ⟨parts, takes, rfl⟩
    cases takes
    rfl
  · rintro rfl
    exact ⟨[], .nil, rfl⟩

theorem covers_cons {piece : Piece} {pieces : List Piece} {cs : List Char} :
    Covers (piece :: pieces) cs ↔ ∃ u v, cs = u ++ v ∧ piece.Takes u ∧ Covers pieces v := by
  constructor
  · rintro ⟨parts, takes, rfl⟩
    cases takes with
    | cons first rest => exact ⟨_, _, rfl, first, _, rest, rfl⟩
  · rintro ⟨u, v, rfl, first, parts, rest, rfl⟩
    exact ⟨u :: parts, .cons first rest, rfl⟩

theorem covers_append {first second : List Piece} {cs : List Char} :
    Covers (first ++ second) cs ↔ ∃ u v, cs = u ++ v ∧ Covers first u ∧ Covers second v := by
  induction first generalizing cs with
  | nil => simp [covers_nil]
  | cons piece first ih =>
      simp only [List.cons_append, covers_cons, ih]
      constructor
      · rintro ⟨u, _, rfl, takes, v, w, rfl, covers, later⟩
        exact ⟨u ++ v, w, (List.append_assoc ..).symm, ⟨u, v, rfl, takes, covers⟩, later⟩
      · rintro ⟨_, w, rfl, ⟨u, v, rfl, takes, covers⟩, later⟩
        exact ⟨u, v ++ w, List.append_assoc .., takes, v, w, rfl, covers, later⟩

theorem covers_star {pieces : List Piece} {cs : List Char} :
    Covers (.star :: pieces) cs ↔ ∃ u v, cs = u ++ v ∧ Covers pieces v := by
  rw [covers_cons]
  constructor
  · rintro ⟨u, v, cut, _, covers⟩
    exact ⟨u, v, cut, covers⟩
  · rintro ⟨u, v, cut, covers⟩
    exact ⟨u, v, cut, .star u, covers⟩

theorem covers_one {piece : Piece} (fixed : piece ≠ .star) {pieces : List Piece}
    {cs : List Char} :
    Covers (piece :: pieces) cs ↔
      ∃ c rest, cs = c :: rest ∧ piece.accepts c = true ∧ Covers pieces rest := by
  rw [covers_cons]
  constructor
  · rintro ⟨u, v, rfl, takes, covers⟩
    cases takes with
    | star => exact absurd rfl fixed
    | one accepted => exact ⟨_, v, rfl, accepted, covers⟩
  · rintro ⟨c, rest, rfl, accepted, covers⟩
    exact ⟨[c], rest, rfl, .one accepted, covers⟩

theorem Covers.extend {pieces : List Piece} {cs : List Char} (covers : Covers (.star :: pieces) cs)
    (u : List Char) : Covers (.star :: pieces) (u ++ cs) := by
  obtain ⟨v, w, rfl, later⟩ := covers_star.mp covers
  exact covers_star.mpr ⟨u ++ v, w, (List.append_assoc ..).symm, later⟩

/-! ### The table of all ends -/

theorem ends_one {piece : Piece} (fixed : piece ≠ .star) (pieces : List Piece) (cs : List Char) :
    ends cs (piece :: pieces) = stepFrom piece cs (ends cs pieces) := by
  cases piece with
  | star => exact absurd rfl fixed
  | any | char | oneOf => rfl

theorem ends_nil (pieces : List Piece) : ends [] pieces = [accepts pieces []] := by
  have single : ∃ b, ends [] pieces = [b] := by
    induction pieces with
    | nil => exact ⟨true, rfl⟩
    | cons piece pieces ih =>
        obtain ⟨b, same⟩ := ih
        by_cases fixed : piece = .star
        · exact ⟨_, by rw [fixed, ends, same]; rfl⟩
        · exact ⟨_, by rw [ends_one fixed, stepFrom]⟩
  obtain ⟨b, same⟩ := single
  rw [accepts, same]
  rfl

theorem ends_cons (c : Char) (cs : List Char) (pieces : List Piece) :
    ends (c :: cs) pieces = accepts pieces (c :: cs) :: ends cs pieces := by
  have goes : ∃ b, ends (c :: cs) pieces = b :: ends cs pieces := by
    induction pieces with
    | nil => exact ⟨false, rfl⟩
    | cons piece pieces ih =>
        obtain ⟨b, same⟩ := ih
        by_cases fixed : piece = .star
        · exact ⟨_, by rw [fixed, ends, same, anyFrom]; rfl⟩
        · exact ⟨_, by rw [ends_one fixed, ends_one fixed, same, stepFrom]; rfl⟩
  obtain ⟨b, same⟩ := goes
  rw [accepts, same]
  rfl

theorem accepts_star_nil (pieces : List Piece) :
    accepts (.star :: pieces) [] = accepts pieces [] := by
  rw [accepts, ends, ends_nil]
  exact Bool.or_false _

theorem accepts_star_cons (pieces : List Piece) (c : Char) (cs : List Char) :
    accepts (.star :: pieces) (c :: cs) =
      (accepts pieces (c :: cs) || accepts (.star :: pieces) cs) := by
  rw [accepts, ends, ends_cons]
  rfl

theorem accepts_one_nil {piece : Piece} (fixed : piece ≠ .star) (pieces : List Piece) :
    accepts (piece :: pieces) [] = false := by
  rw [accepts, ends_one fixed]
  rfl

theorem accepts_one_cons {piece : Piece} (fixed : piece ≠ .star) (pieces : List Piece) (c : Char)
    (cs : List Char) :
    accepts (piece :: pieces) (c :: cs) = (piece.accepts c && accepts pieces cs) := by
  rw [accepts, ends_one fixed, ends_cons]
  rfl

theorem accepts_iff {pieces : List Piece} {cs : List Char} :
    accepts pieces cs = true ↔ Covers pieces cs := by
  induction pieces generalizing cs with
  | nil =>
      rw [covers_nil]
      cases cs <;> simp [accepts, ends]
  | cons piece pieces ih =>
      by_cases fixed : piece = .star
      · subst fixed
        rw [covers_star]
        induction cs with
        | nil => simp [accepts_star_nil, ih]
        | cons c cs again =>
            rw [accepts_star_cons, Bool.or_eq_true, ih, again]
            exact (exists_cut_cons (p := fun _ v => Covers pieces v)).symm
      · rw [covers_one fixed]
        cases cs with
        | nil => simp [accepts_one_nil fixed]
        | cons c cs => simp [accepts_one_cons fixed, ih]

/-! ### The pattern that a glob reads as -/

def Piece.test : Piece → Test
  | .star => .oneOf [] true .exact
  | .any => .any
  | .char c => .point c.toNat .exact
  | .oneOf ranges wanted => .oneOf (ranges.map fun r => .span r.1.toNat r.2.toNat) wanted .exact

theorem Piece.accepts_test (piece : Piece) (c : Char) : piece.test.accepts c = piece.accepts c := by
  cases piece with
  | star => rfl
  | any => rfl
  | char d =>
      rw [Bool.eq_iff_iff]
      simp only [test, Test.accepts, Piece.accepts, Folding.same, beq_iff_eq, Char.toNat_inj]
      exact eq_comm
  | oneOf ranges wanted =>
      simp only [test, Test.accepts, Piece.accepts, List.any_map]
      rfl

def segments : List Piece → List Piece × List (List Piece)
  | [] => ([], [])
  | .star :: pieces => ([], (segments pieces).1 :: (segments pieces).2)
  | piece :: pieces => (piece :: (segments pieces).1, (segments pieces).2)

def starred (later : List (List Piece)) : List Piece := later.flatMap (.star :: ·)

def fixedNodes (pieces : List Piece) : List Node := pieces.map fun piece => .one piece.test

def soonest (segment : List Piece) : Node :=
  .atomic (.ofList (.many .any 0 none .lazy :: fixedNodes segment))

/-- The nodes of all segments that come after a star. The last segment is looked for from the end;
every other one is taken where it comes first. Stars side by side are one. -/
def starNodes : List (List Piece) → List Node
  | [] => []
  | [last] => .many .any 0 none .greedy :: fixedNodes last
  | [] :: later => starNodes later
  | segment :: later => soonest segment :: starNodes later

def pattern (pieces : List Piece) : Node :=
  .ofList (fixedNodes (segments pieces).1 ++ starNodes (segments pieces).2 ++ [.stand .textEnd])

theorem starNodes_double {later : List (List Piece)} (more : later ≠ []) :
    starNodes ([] :: later) = starNodes later := by
  cases later with
  | nil => exact absurd rfl more
  | cons segment later => rfl

theorem starNodes_kept {segment : List Piece} {later : List (List Piece)} (some : segment ≠ [])
    (more : later ≠ []) : starNodes (segment :: later) = soonest segment :: starNodes later := by
  cases segment with
  | nil => exact absurd rfl some
  | cons piece segment =>
      cases later with
      | nil => exact absurd rfl more
      | cons next later => rfl

theorem segments_one {piece : Piece} (fixed : piece ≠ .star) (pieces : List Piece) :
    segments (piece :: pieces) = (piece :: (segments pieces).1, (segments pieces).2) := by
  cases piece with
  | star => exact absurd rfl fixed
  | any | char | oneOf => rfl

theorem segments_eq (pieces : List Piece) :
    pieces = (segments pieces).1 ++ starred (segments pieces).2 := by
  induction pieces with
  | nil => rfl
  | cons piece pieces ih =>
      by_cases fixed : piece = .star
      · subst fixed
        exact congrArg (.star :: ·) ih
      · rw [segments_one fixed]
        exact congrArg (piece :: ·) ih

def IsFixed (pieces : List Piece) : Prop := ∀ piece ∈ pieces, piece ≠ .star

theorem isFixed_segments (pieces : List Piece) :
    IsFixed (segments pieces).1 ∧ ∀ segment ∈ (segments pieces).2, IsFixed segment := by
  induction pieces with
  | nil => simp [segments, IsFixed]
  | cons piece pieces ih =>
      obtain ⟨first, later⟩ := ih
      by_cases fixed : piece = .star
      · subst fixed
        exact ⟨List.forall_mem_nil _, List.forall_mem_cons.mpr ⟨first, later⟩⟩
      · rw [segments_one fixed]
        exact ⟨List.forall_mem_cons.mpr ⟨fixed, first⟩, later⟩

section Fixed

variable {pieces : List Piece} {nodes : List Node} {front : List Char} {caps : Captures}
  {next : Next}

theorem run_fixedNodes (fixed : IsFixed pieces) {u : List Char} (covers : Covers pieces u)
    (v : List Char) :
    (Node.ofList (fixedNodes pieces ++ nodes)).run (.between front (u ++ v)) caps next =
      (Node.ofList nodes).run (.between (front ++ u) v) caps next := by
  induction pieces generalizing front u with
  | nil =>
      rw [covers_nil.mp covers, List.append_nil]
      rfl
  | cons piece pieces ih =>
      obtain ⟨own, later⟩ := List.forall_mem_cons.mp fixed
      obtain ⟨c, rest, rfl, accepted, covers⟩ := (covers_one own).mp covers
      change (Node.ofList (.one piece.test :: (fixedNodes pieces ++ nodes))).run
        (.between front (c :: (rest ++ v))) caps next = _
      rw [Node.run_cons, Node.run_one, if_pos ((piece.accepts_test c).trans accepted),
        ih later covers, List.append_assoc, List.singleton_append]

theorem exists_of_run_fixedNodes (fixed : IsFixed pieces) {back : List Char} {o : Outcome}
    (found : (Node.ofList (fixedNodes pieces ++ nodes)).run (.between front back) caps next =
      some o) :
    ∃ u v, back = u ++ v ∧ Covers pieces u ∧
      (Node.ofList nodes).run (.between (front ++ u) v) caps next = some o := by
  induction pieces generalizing front back with
  | nil => exact ⟨[], back, rfl, covers_nil.mpr rfl, by rw [List.append_nil]; exact found⟩
  | cons piece pieces ih =>
      obtain ⟨own, later⟩ := List.forall_mem_cons.mp fixed
      change (Node.ofList (.one piece.test :: (fixedNodes pieces ++ nodes))).run
        (.between front back) caps next = _ at found
      rw [Node.run_cons] at found
      obtain ⟨c, rest, rfl, accepted, found⟩ := Node.exists_of_run_one found
      obtain ⟨u, v, rfl, covers, found⟩ := ih later found
      refine ⟨c :: u, v, rfl, (covers_one own).mpr ⟨c, u, rfl, ?_, covers⟩, ?_⟩
      · exact (piece.accepts_test c).symm.trans accepted
      · rwa [List.append_assoc, List.singleton_append] at found

theorem run_segment (fixed : IsFixed pieces) {u : List Char} (covers : Covers pieces u)
    (v : List Char) : (Node.ofList (fixedNodes pieces)).run (.between front (u ++ v)) caps next =
      next (.between (front ++ u) v) caps := by
  rw [← List.append_nil (fixedNodes pieces), run_fixedNodes fixed covers]
  rfl

theorem exists_of_run_segment (fixed : IsFixed pieces) {back : List Char} {o : Outcome}
    (found : (Node.ofList (fixedNodes pieces)).run (.between front back) caps next = some o) :
    ∃ u v, back = u ++ v ∧ Covers pieces u ∧ next (.between (front ++ u) v) caps = some o := by
  rw [← List.append_nil (fixedNodes pieces)] at found
  exact exists_of_run_fixedNodes fixed found

theorem Covers.length_eq (fixed : IsFixed pieces) {u : List Char} (covers : Covers pieces u) :
    u.length = pieces.length := by
  induction pieces generalizing u with
  | nil =>
      rw [covers_nil.mp covers]
      rfl
  | cons piece pieces ih =>
      obtain ⟨own, later⟩ := List.forall_mem_cons.mp fixed
      obtain ⟨c, rest, rfl, _, covers⟩ := (covers_one own).mp covers
      rw [List.length_cons, List.length_cons, ih later covers]

end Fixed

theorem exists_shortest {p : List Char → List Char → Prop} {back : List Char}
    (cut : ∃ u v, back = u ++ v ∧ p u v) :
    ∃ u v, back = u ++ v ∧ p u v ∧
      ∀ u' v', back = u' ++ v' → u'.length < u.length → ¬ p u' v' := by
  classical
  have lengths : ∃ n u v, u.length = n ∧ back = u ++ v ∧ p u v := by
    obtain ⟨u, v, cut, holds⟩ := cut
    exact ⟨u.length, u, v, rfl, cut, holds⟩
  obtain ⟨u, v, least, cut, holds⟩ := Nat.find_spec lengths
  refine ⟨u, v, cut, holds, fun u' v' cut' shorter holds' => ?_⟩
  rw [least] at shorter
  exact Nat.find_min lengths shorter ⟨u', v', rfl, cut', holds'⟩

theorem takes_any (u : List Char) : Takes .any 0 none u := .of_accepted fun _ _ => rfl

theorem exists_run_greedy {front u v : List Char} {caps : Captures} {next : Next}
    (goes : ∃ o, next (.between (front ++ u) v) caps = some o) :
    ∃ o, (Node.many .any 0 none .greedy).run (.between front (u ++ v)) caps next = some o := by
  rw [← Option.isSome_iff_exists] at goes ⊢
  change (List.findSome? _ _).isSome = true
  rw [List.findSome?_isSome_iff]
  exact ⟨_, Cursor.mem_stops.mpr ⟨u, v, rfl, takes_any u, rfl⟩, goes⟩

section Segments

variable {front back : List Char} {caps : Captures}

theorem starred_cons (segment : List Piece) (later : List (List Piece)) :
    starred (segment :: later) = .star :: (segment ++ starred later) := rfl

theorem Covers.extend_starred {later : List (List Piece)} (some : later ≠ []) {cs : List Char}
    (covers : Covers (starred later) cs) (u : List Char) : Covers (starred later) (u ++ cs) := by
  cases later with
  | nil => exact absurd rfl some
  | cons segment later => exact covers.extend u

theorem isSuffix_of_sooner {u w z u' w' z' : List Char}
    (cut : u ++ (w ++ z) = u' ++ (w' ++ z')) (sooner : u'.length ≤ u.length)
    (same : w'.length = w.length) : z <:+ z' := by
  have sizes := congrArg List.length cut
  simp only [List.length_append] at sizes
  have ends : z <:+ u ++ (w ++ z) := ⟨u ++ w, List.append_assoc ..⟩
  have ends' : z' <:+ u ++ (w ++ z) := ⟨u' ++ w', by rw [cut, List.append_assoc]⟩
  exact List.suffix_of_suffix_length_le ends ends' (by omega)

theorem run_soonest (segment : List Piece) (c : Cursor) (next : Next) :
    (soonest segment).run c caps next =
      ((Node.many .any 0 none .lazy).run c caps fun c caps =>
        (Node.ofList (fixedNodes segment)).run c caps finish).bind fun o => next o.1 o.2 := by
  rw [soonest, Node.run_atomic, Node.run_cons]

theorem exists_run_soonest {segment : List Piece} (fixed : IsFixed segment) {u w z : List Char}
    (covers : Covers segment w) (next : Next) :
    ∃ front' x, (soonest segment).run (.between front (u ++ (w ++ z))) caps next =
      next (.between front' (x ++ z)) caps := by
  obtain ⟨u', _, cut, ⟨w', z', rfl, covers'⟩, shortest⟩ :=
    exists_shortest (p := fun _ v => ∃ w z, v = w ++ z ∧ Covers segment w)
      ⟨u, w ++ z, rfl, w, z, rfl, covers⟩
  have sooner : u'.length ≤ u.length := by
    by_contra later
    exact shortest u (w ++ z) rfl (Nat.lt_of_not_le later) ⟨w, z, rfl, covers⟩
  obtain ⟨x, rfl⟩ := isSuffix_of_sooner cut sooner
    ((covers'.length_eq fixed).trans (covers.length_eq fixed).symm)
  have taken : (Node.many .any 0 none .lazy).run (.between front (u ++ (w ++ z))) caps
      (fun c caps => (Node.ofList (fixedNodes segment)).run c caps finish) =
        some (.between (front ++ u' ++ w') (x ++ z), caps) := by
    refine Node.run_lazy cut (takes_any u') ?_ fun u v earlier _ shorter => ?_
    · exact run_segment fixed covers' (x ++ z)
    · rw [Option.eq_none_iff_forall_ne_some]
      intro o found
      obtain ⟨w, z, rfl, covers, _⟩ := exists_of_run_segment fixed found
      exact shortest u _ earlier shorter ⟨w, z, rfl, covers⟩
  refine ⟨front ++ u' ++ w', x, ?_⟩
  rw [run_soonest, taken]
  rfl

theorem exists_of_run_soonest {segment : List Piece} (fixed : IsFixed segment) {next : Next}
    {o : Outcome} (found : (soonest segment).run (.between front back) caps next = some o) :
    ∃ u w z, back = u ++ (w ++ z) ∧ Covers segment w ∧
      next (.between (front ++ u ++ w) z) caps = some o := by
  rw [run_soonest] at found
  obtain ⟨⟨c', caps'⟩, taken, found⟩ := Option.bind_eq_some_iff.mp found
  obtain ⟨u, v, rfl, _, taken⟩ := Node.exists_of_run_many taken
  obtain ⟨w, z, rfl, covers, taken⟩ := exists_of_run_segment fixed taken
  cases taken
  exact ⟨u, w, z, rfl, covers, found⟩

theorem exists_run_textEnd_iff :
    (∃ o, (Node.ofList [.stand .textEnd]).run (.between front back) caps finish = some o) ↔
      back = [] := by
  cases back with
  | nil => simp [Node.ofList, Node.run, Anchor.holds, Cursor.between, finish]
  | cons c rest => simp [Node.ofList, Node.run, Anchor.holds, Cursor.between]

theorem exists_run_starNodes_iff {later : List (List Piece)}
    (fixed : ∀ segment ∈ later, IsFixed segment) :
    (∃ o, (Node.ofList (starNodes later ++ [.stand .textEnd])).run (.between front back) caps
      finish = some o) ↔ Covers (starred later) back := by
  induction later using starNodes.induct generalizing front back caps with
  | case1 => exact exists_run_textEnd_iff.trans covers_nil.symm
  | case2 last =>
      have own := fixed last List.mem_cons_self
      change (∃ o, (Node.ofList (.many .any 0 none .greedy ::
        (fixedNodes last ++ [.stand .textEnd]))).run (.between front back) caps finish = some o) ↔
          Covers (.star :: (last ++ [])) back
      rw [List.append_nil, covers_star, Node.run_cons]
      constructor
      · rintro ⟨o, found⟩
        obtain ⟨u, v, rfl, _, found⟩ := Node.exists_of_run_many found
        obtain ⟨w, z, rfl, covers, found⟩ := exists_of_run_fixedNodes own found
        obtain rfl := exists_run_textEnd_iff.mp ⟨o, found⟩
        exact ⟨u, w ++ [], rfl, (List.append_nil w).symm ▸ covers⟩
      · rintro ⟨u, v, rfl, covers⟩
        apply exists_run_greedy
        rw [← List.append_nil v, run_fixedNodes own covers]
        exact exists_run_textEnd_iff.mpr rfl
  | case3 later more ih =>
      obtain ⟨_, others⟩ := List.forall_mem_cons.mp fixed
      change _ ↔ Covers (.star :: starred later) back
      rw [starNodes_double more, ih others, covers_star]
      constructor
      · intro covers
        exact ⟨[], back, rfl, covers⟩
      · rintro ⟨u, v, rfl, covers⟩
        exact covers.extend_starred more u
  | case4 segment later more some ih =>
      -- The segment may be taken where it comes first: what a later place leaves, this one leaves
      -- too.
      obtain ⟨own, others⟩ := List.forall_mem_cons.mp fixed
      rw [starNodes_kept some more, List.cons_append, Node.run_cons, starred_cons, covers_star]
      simp only [covers_append]
      constructor
      · rintro ⟨o, found⟩
        obtain ⟨u, w, z, rfl, covers, found⟩ := exists_of_run_soonest own found
        exact ⟨u, w ++ z, rfl, w, z, rfl, covers, (ih others).mp ⟨o, found⟩⟩
      · rintro ⟨u, _, rfl, w, z, rfl, covers, later⟩
        obtain ⟨front', x, taken⟩ := exists_run_soonest own covers _
        rw [taken, ih others]
        exact later.extend_starred more x

end Segments

theorem exists_run_pattern_iff {pieces : List Piece} {cs : List Char} :
    (∃ o, (pattern pieces).run (.start cs) [] finish = some o) ↔ Covers pieces cs := by
  obtain ⟨first, later⟩ := isFixed_segments pieces
  have covered : Covers pieces cs ↔
      Covers ((segments pieces).1 ++ starred (segments pieces).2) cs := by
    rw [← segments_eq]
  rw [covered, covers_append, pattern, List.append_assoc]
  constructor
  · rintro ⟨o, found⟩
    change (Node.ofList _).run (.between [] cs) [] finish = _ at found
    obtain ⟨u, v, rfl, covers, found⟩ := exists_of_run_fixedNodes first found
    exact ⟨u, v, rfl, covers, (exists_run_starNodes_iff later).mp ⟨o, found⟩⟩
  · rintro ⟨u, v, rfl, covers, starred⟩
    change ∃ o, (Node.ofList _).run (.between [] (u ++ v)) [] finish = some o
    rw [run_fixedNodes first covers]
    exact (exists_run_starNodes_iff later).mpr starred

/-! ### Globs as they are written -/

/-- What one character of a glob without brackets stands for. -/
inductive StandsFor : Char → List Char → Prop
  | star (u : List Char) : StandsFor '*' u
  | mark (c : Char) : StandsFor '?' [c]
  | itself {c : Char} (notStar : c ≠ '*') (notMark : c ≠ '?') : StandsFor c [c]

def MadeBy (glob text : List Char) : Prop :=
  ∃ parts, List.Forall₂ StandsFor glob parts ∧ parts.flatten = text

def pieceOf (c : Char) : Piece := if c = '*' then .star else if c = '?' then .any else .char c

theorem takes_pieceOf {c : Char} {u : List Char} : (pieceOf c).Takes u ↔ StandsFor c u := by
  unfold pieceOf
  split
  · rename_i star
    subst star
    exact ⟨fun _ => .star u, fun _ => .star u⟩
  · rename_i notStar
    split
    · rename_i mark
      subst mark
      constructor
      · rintro (_ | ⟨_⟩)
        exact .mark _
      · intro stands
        cases stands with
        | mark d => exact .one rfl
        | itself _ notMark => exact absurd rfl notMark
    · rename_i notMark
      constructor
      · rintro (_ | ⟨same⟩)
        rw [beq_iff_eq.mp same]
        exact .itself notStar notMark
      · intro stands
        cases stands with
        | star => exact absurd rfl notStar
        | mark => exact absurd rfl notMark
        | itself => exact .one (beq_self_eq_true c)

theorem read_of_unbracketed {cs : List Char} (unbracketed : '[' ∉ cs) {fuel : Nat}
    (enough : cs.length ≤ fuel) : read fuel cs = cs.map pieceOf := by
  induction cs generalizing fuel with
  | nil => cases fuel <;> rfl
  | cons c cs ih =>
      cases fuel with
      | zero => exact absurd enough (Nat.not_succ_le_zero _)
      | succ fuel =>
          obtain ⟨bracket, later⟩ := List.ne_and_not_mem_of_not_mem_cons unbracketed
          have rest := ih later (Nat.le_of_succ_le_succ enough)
          have step : read (fuel + 1) (c :: cs) = pieceOf c :: read fuel cs := by
            unfold pieceOf
            by_cases star : c = '*'
            · subst star
              rfl
            · by_cases mark : c = '?'
              · subst mark
                rfl
              · rw [if_neg star, if_neg mark, read]
                · exact star
                · exact mark
                · exact bracket.symm
          rw [step, rest, List.map_cons]

def asPattern (glob : String) : Node := pattern (read glob.toList.length glob.toList)

theorem matchesText_iff_run {glob text : String} :
    matchesText glob text = true ↔
      ∃ o, (asPattern glob).run (.start text.toList) [] finish = some o := by
  rw [matchesText, accepts_iff, asPattern, exists_run_pattern_iff]

theorem covers_map_pieceOf {glob text : List Char} :
    Covers (glob.map pieceOf) text ↔ MadeBy glob text := by
  simp only [Covers, MadeBy, List.forall₂_map_left_iff, takes_pieceOf]

theorem matchesText_iff {glob : String} (unbracketed : '[' ∉ glob.toList) {text : String} :
    matchesText glob text = true ↔ MadeBy glob.toList text.toList := by
  rw [matchesText, accepts_iff, read_of_unbracketed unbracketed (Nat.le_refl _),
    covers_map_pieceOf]

theorem madeBy_plain {glob text : List Char} (plain : ∀ c ∈ glob, c ≠ '*' ∧ c ≠ '?') :
    MadeBy glob text ↔ text = glob := by
  have own : ∀ parts, List.Forall₂ StandsFor glob parts ↔ parts = glob.map ([·]) := by
    induction glob with
    | nil => exact fun parts => List.forall₂_nil_left_iff
    | cons c glob ih =>
        obtain ⟨⟨notStar, notMark⟩, later⟩ := List.forall_mem_cons.mp plain
        intro parts
        rw [List.forall₂_cons_left_iff, List.map_cons]
        constructor
        · rintro ⟨part, parts, stands, rest, rfl⟩
          rw [(ih later parts).mp rest]
          cases stands with
          | star => exact absurd rfl notStar
          | mark => exact absurd rfl notMark
          | itself => rfl
        · rintro rfl
          exact ⟨[c], _, .itself notStar notMark, (ih later _).mpr rfl, rfl⟩
  simp only [MadeBy, own, exists_eq_left]
  rw [← List.flatMap_def, List.flatMap_singleton']
  exact eq_comm

end ReleaseAdvisor.Glob

namespace ReleaseAdvisor.Matcher

theorem accepts_glob {source : String} {actual : Value} :
    (Matcher.glob source).accepts actual = true ↔
      ∃ s, actual = .text s ∧ Glob.matchesText source s = true := by
  cases actual with
  | text s => simp [accepts]
  | _ => simp [accepts]

theorem accepts_equals_text {s : String} {actual : Value} :
    (Matcher.equals (.text s)).accepts actual = true ↔ actual = .text s :=
  Value.same_text

theorem accepts_equals_iff_glob {source : String}
    (signless : ∀ c ∈ source.toList, isGlobSign c = false) {actual : Value} :
    (Matcher.equals (.text source)).accepts actual = true ↔
      (Matcher.glob source).accepts actual = true := by
  have plain : ∀ c ∈ source.toList, c ≠ '*' ∧ c ≠ '?' := by
    intro c listed
    have none := signless c listed
    simp only [isGlobSign, Bool.or_eq_false_iff, beq_eq_false_iff_ne] at none
    exact none.1
  have unbracketed : '[' ∉ source.toList := by
    intro listed
    have none := signless _ listed
    cases none
  simp only [accepts_equals_text, accepts_glob, Glob.matchesText_iff unbracketed,
    Glob.madeBy_plain plain, String.toList_inj, exists_eq_right]

/-- A text that is no pattern between slashes and has no bracket is a field's value as a glob: it
accepts the texts that are made of one part for each of its characters, a star standing for any
text, a question mark for any character and every other character for itself. That it is compared as
an exact value where it has no signs does not show, and neither does it that a glob is matched by
the pattern it is translated to. No glob accepts anything but texts. -/
theorem ofValue_as_glob (source : String) (unbracketed : '[' ∉ source.toList)
    (unenclosed : ¬ ∃ p, Encloses source p) :
    ∃ matcher, ofValue (.text source) = .ok matcher ∧
      (∀ s, matcher.accepts (.text s) = true ↔ Glob.MadeBy source.toList s.toList) ∧
      (∀ actual, matcher.accepts actual = true ↔ (Matcher.glob source).accepts actual = true) ∧
      (∀ s, matcher.accepts (.text s) = true ↔
        ∃ o, (Glob.asPattern source).run (.start s.toList) [] Pattern.finish = some o) ∧
      ((∀ c ∈ source.toList, c ≠ '*' ∧ c ≠ '?') →
        ∀ s, matcher.accepts (.text s) = true ↔ s = source) ∧
      ∀ glob actual, (Matcher.glob glob).accepts actual = true → ∃ s, actual = .text s := by
  have shortcut : ∃ matcher, ofValue (.text source) = .ok matcher ∧
      ∀ actual, matcher.accepts actual = true ↔ (Matcher.glob source).accepts actual = true := by
    rw [ofValue_text_of_plain unenclosed]
    refine ⟨_, rfl, fun actual => ?_⟩
    split
    · exact Iff.rfl
    · rename_i signless
      refine accepts_equals_iff_glob fun c listed => ?_
      exact Bool.eq_false_iff.mpr fun sign => signless (List.any_eq_true.mpr ⟨c, listed, sign⟩)
  obtain ⟨matcher, read, same⟩ := shortcut
  have onText : ∀ s, matcher.accepts (.text s) = true ↔ Glob.matchesText source s = true :=
    fun s => same (.text s)
  refine ⟨matcher, read, ?_, same, ?_, fun plain s => ?_, fun glob actual accepted => ?_⟩
  · exact fun s => (onText s).trans (Glob.matchesText_iff unbracketed)
  · exact fun s => (onText s).trans Glob.matchesText_iff_run
  · rw [onText, Glob.matchesText_iff unbracketed, Glob.madeBy_plain plain, String.toList_inj]
  · obtain ⟨s, text, _⟩ := accepts_glob.mp accepted
    exact ⟨s, text⟩

/-- The part between the stars may start before the place where it is found, and a star and a
question mark stand for line feeds too. -/
theorem ofValue_as_glob_overlapping :
    '[' ∉ "*aab*?b".toList ∧ (¬ ∃ p, Encloses "*aab*?b" p) ∧
      ∃ matcher, ofValue (.text "*aab*?b") = .ok matcher ∧
        matcher.accepts (.text "aaab\n\nb") = true ∧ matcher.accepts (.text "aaabb") = false := by
  have unbracketed : '[' ∉ "*aab*?b".toList := by decide
  have unenclosed : ¬ ∃ p, Encloses "*aab*?b" p := betweenSlashes?_eq_none.mp (by decide)
  obtain ⟨matcher, read, made, same, _⟩ := ofValue_as_glob _ unbracketed unenclosed
  refine ⟨unbracketed, unenclosed, matcher, read, (made _).mpr ?_, ?_⟩
  · refine ⟨[['a'], ['a'], ['a'], ['b'], ['\n'], ['\n'], ['b']], ?_, rfl⟩
    exact .cons (.star _) (.cons (.itself (by decide) (by decide))
      (.cons (.itself (by decide) (by decide)) (.cons (.itself (by decide) (by decide))
        (.cons (.star _) (.cons (.mark _) (.cons (.itself (by decide) (by decide)) .nil))))))
  · rw [Bool.eq_false_iff, ne_eq, same]
    decide

end ReleaseAdvisor.Matcher
