import ReleaseAdvisor.Proofs.Spans

/-!
Matches in a text that goes on. A pattern that ends with a test, and else looks only at what it
takes, finds the same groups whether or not more text follows, as long as the test accepts no
character of what follows: whatever reaches beyond the text does not come to an end.
-/

namespace ReleaseAdvisor

namespace Pattern

/-- The node looks at nothing but what it takes, and leaves none of the ways to take it out. Nodes
that repeat a pattern or look around are left aside. -/
def Node.isPlain : Node → Bool
  | .empty | .one _ | .many _ _ _ .greedy | .many _ _ _ .lazy | .stand .textStart => true
  | .seq first second | .either first second => first.isPlain && second.isPlain
  | .group _ body => body.isPlain
  | _ => false

def Captures.texts (caps : Captures) : List (Nat × List Char) :=
  caps.map fun held => (held.1, held.2.text)

theorem Captures.lookup_texts (caps : Captures) (index : Nat) :
    caps.texts.lookup index = (caps.lookup index).map Span.text := by
  induction caps with
  | nil => rfl
  | cons held caps ih =>
      obtain ⟨own, span⟩ := held
      change List.lookup index ((own, span.text) :: Captures.texts caps) = _
      rw [List.lookup_cons, List.lookup_cons, ih]
      split <;> rfl

def told (found : Option Outcome) : Option (List (Nat × List Char)) :=
  found.map fun o => Captures.texts o.2

theorem told_or (first second : Option Outcome) :
    told (first.or second) = (told first).or (told second) :=
  Option.map_or

theorem told_findSome? {stops : List Cursor} {f g : Cursor → Option Outcome}
    (same : ∀ c ∈ stops, told (f c) = told (g c)) :
    told (stops.findSome? f) = told (stops.findSome? g) := by
  induction stops with
  | nil => rfl
  | cons c stops ih =>
      obtain ⟨first, later⟩ := List.forall_mem_cons.mp same
      have split (h : Cursor → Option Outcome) :
          (c :: stops).findSome? h = (h c).or (stops.findSome? h) := by
        rw [List.findSome?_cons]
        cases h c <;> rfl
      rw [split, split, told_or, told_or, first, ih later]

/-! ### Places of a longer text -/

def Cursor.extend (tail : List Char) (c : Cursor) : Cursor := { c with after := c.after ++ tail }

theorem reachFrom_start {test : Test} {room : Option Nat} {pos : Nat} {before back : List Char}
    {seen : List Cursor} : ∃ beyond, reachFrom test room pos before back seen =
      beyond ++ ⟨pos, before, back⟩ :: seen ∧ ∀ d ∈ beyond, pos < d.pos := by
  induction back generalizing room pos before seen with
  | nil => exact ⟨[], rfl, List.forall_mem_nil _⟩
  | cons x back ih =>
      rw [reachFrom]
      split
      · exact ⟨[], rfl, List.forall_mem_nil _⟩
      · obtain ⟨beyond, reached, far⟩ := @ih (room.map (· - 1)) (pos + 1) (x :: before)
          (⟨pos, before, x :: back⟩ :: seen)
        refine ⟨beyond ++ [⟨pos + 1, x :: before, back⟩], by simp [reached], fun d listed => ?_⟩
        rcases List.mem_append.mp listed with listed | listed
        · exact Nat.lt_of_succ_lt (far d listed)
        · rw [List.mem_singleton.mp listed]
          exact Nat.lt_succ_self pos

theorem reachFrom_extend {test : Test} {room : Option Nat} {pos : Nat} {before back : List Char}
    {seen : List Cursor} (tail : List Char) :
    ∃ beyond, reachFrom test room pos before (back ++ tail) (seen.map (Cursor.extend tail)) =
      beyond ++ (reachFrom test room pos before back seen).map (Cursor.extend tail) ∧
      ∀ d ∈ beyond, pos + back.length < d.pos := by
  induction back generalizing room pos before seen with
  | nil => exact reachFrom_start
  | cons x back ih =>
      rw [List.cons_append, reachFrom, reachFrom]
      split
      · exact ⟨[], rfl, List.forall_mem_nil _⟩
      · obtain ⟨beyond, reached, far⟩ := @ih (room.map (· - 1)) (pos + 1) (x :: before)
          (⟨pos, before, x :: back⟩ :: seen)
        refine ⟨beyond, reached, fun d listed => ?_⟩
        have farther := far d listed
        rw [List.length_cons]
        omega

theorem Cursor.stops_extend {test : Test} {least : Nat} {most : Option Nat}
    {front back : List Char} (tail : List Char) :
    ∃ beyond, (Cursor.between front (back ++ tail)).stops test least most =
      beyond ++ ((Cursor.between front back).stops test least most).map (Cursor.extend tail) ∧
      ∀ d ∈ beyond, (front ++ back).length < d.pos := by
  obtain ⟨beyond, reached, far⟩ :=
    @reachFrom_extend test most front.length front.reverse back [] tail
  have kept (text : List Char) : (Cursor.between front text).stops test least most =
      (reachFrom test most front.length front.reverse text []).filter
        fun d => front.length + least ≤ d.pos :=
    takeWhile_eq_filter _ (reachFrom_sorted List.Pairwise.nil (by simp))
  refine ⟨beyond.filter fun d => front.length + least ≤ d.pos, ?_, fun d listed => ?_⟩
  · rw [kept, kept, ← List.map_nil, reached, List.filter_append, List.filter_map]
    rfl
  · rw [List.length_append]
    exact far d (List.mem_of_mem_filter listed)

/-! ### Running in a longer text -/

section Run

variable {text tail : List Char}

def StopsWithin (text tail : List Char) (next : Next) : Prop :=
  ∀ u v, tail = u ++ v → u ≠ [] → ∀ caps, next (.between (text ++ u) v) caps = none

def AgreesWithin (text tail : List Char) (next next' : Next) : Prop :=
  ∀ front back, text = front ++ back → ∀ caps caps', Captures.texts caps = Captures.texts caps' →
    told (next' (.between front (back ++ tail)) caps') = told (next (.between front back) caps)

theorem StopsWithin.of_far {next : Next} (stops : StopsWithin text tail next) {test : Test}
    {least : Nat} {most : Option Nat} {front back : List Char} (cut : text = front ++ back)
    {d : Cursor} (listed : d ∈ (Cursor.between front (back ++ tail)).stops test least most)
    (far : text.length < d.pos) (caps : Captures) : next d caps = none := by
  obtain ⟨u, v, split, _, rfl⟩ := Cursor.mem_stops.mp listed
  have longer : back.length < u.length := by
    rw [cut] at far
    simpa using far
  obtain ⟨x, more, rfl, rfl⟩ := exists_of_longer split longer
  rw [← List.append_assoc, ← cut]
  exact stops (x :: more) v rfl (List.cons_ne_nil x more) caps

theorem StopsWithin.run {node : Node} (plain : node.isPlain = true) {next : Next}
    (stops : StopsWithin text tail next) :
    StopsWithin text tail fun c caps => node.run c caps next := by
  -- A place within the tail leads only to later ones, where nothing goes on either.
  induction node generalizing next with
  | empty => exact stops
  | one test =>
      intro u v cut some caps
      cases v with
      | nil => rfl
      | cons x v =>
          dsimp only
          have none := stops (u ++ [x]) v (by simp [cut]) (by simp) caps
          rw [Node.run_one, List.append_assoc, none, ite_self]
  | seq first second ih ih' =>
      obtain ⟨left, right⟩ := Bool.and_eq_true _ _ ▸ plain
      exact ih left (ih' right stops)
  | either first second ih ih' =>
      obtain ⟨left, right⟩ := Bool.and_eq_true _ _ ▸ plain
      intro u v cut some caps
      dsimp only
      rw [Node.run_either]
      exact Option.or_eq_none_iff.mpr
        ⟨ih left stops u v cut some caps, ih' right stops u v cut some caps⟩
  | many test least most pace =>
      intro u v cut some caps
      have gone : ∀ d ∈ (Cursor.between (text ++ u) v).stops test least most,
          next d caps = none := by
        intro d listed
        obtain ⟨u', v', rfl, _, rfl⟩ := Cursor.mem_stops.mp listed
        rw [List.append_assoc]
        exact stops (u ++ u') v' (by rw [cut, List.append_assoc]) (by simp [some]) caps
      cases pace with
      | greedy => exact List.findSome?_eq_none_iff.mpr gone
      | lazy =>
          exact List.findSome?_eq_none_iff.mpr fun d listed => gone d (List.mem_reverse.mp listed)
      | possessive => cases plain
  | group index body ih =>
      intro u v cut some caps
      have held : StopsWithin text tail fun c caps =>
          next c ((index, (Cursor.between (text ++ u) v).upTo c) :: caps) :=
        fun u v cut some _ => stops u v cut some _
      exact ih plain held u v cut some caps
  | stand anchor =>
      intro u v cut some caps
      dsimp only
      rw [Node.run, stops u v cut some, ite_self]
  | _ => cases plain

theorem AgreesWithin.run {node : Node} (plain : node.isPlain = true) {next next' : Next}
    (stops : StopsWithin text tail next') (agrees : AgreesWithin text tail next next') :
    AgreesWithin text tail (fun c caps => node.run c caps next)
      fun c caps => node.run c caps next' := by
  induction node generalizing next next' with
  | empty => exact agrees
  | one test =>
      intro front back cut caps caps' same
      cases back with
      | nil =>
          rw [List.append_nil] at cut
          subst cut
          cases tail with
          | nil => rfl
          | cons x tail =>
              dsimp only
              rw [List.nil_append, Node.run_one, stops [x] tail rfl (by simp), ite_self]
              rfl
      | cons x back =>
          dsimp only
          rw [List.cons_append, Node.run_one, Node.run_one]
          split
          · exact agrees (front ++ [x]) back (by simp [cut]) caps caps' same
          · rfl
  | seq first second ih ih' =>
      obtain ⟨left, right⟩ := Bool.and_eq_true _ _ ▸ plain
      exact ih left (stops.run right) (ih' right stops agrees)
  | either first second ih ih' =>
      obtain ⟨left, right⟩ := Bool.and_eq_true _ _ ▸ plain
      intro front back cut caps caps' same
      dsimp only
      rw [Node.run_either, Node.run_either, told_or, told_or,
        ih left stops agrees front back cut caps caps' same,
        ih' right stops agrees front back cut caps caps' same]
  | many test least most pace =>
      intro front back cut caps caps' same
      obtain ⟨beyond, reached, far⟩ := @Cursor.stops_extend test least most front back tail
      rw [← cut] at far
      -- In the longer text the places beyond come as well, and nothing goes on from them.
      have gone : ∀ d ∈ beyond, next' d caps' = none := fun d listed =>
        stops.of_far cut (reached ▸ List.mem_append_left _ listed) (far d listed) caps'
      have within : ∀ d ∈ (Cursor.between front back).stops test least most,
          told (next' (d.extend tail) caps') = told (next d caps) := by
        intro d listed
        obtain ⟨u, v, rfl, _, rfl⟩ := Cursor.mem_stops.mp listed
        exact agrees (front ++ u) v (by rw [cut, List.append_assoc]) caps caps' same
      dsimp only
      cases pace with
      | greedy =>
          rw [Node.run, Node.run, reached, List.findSome?_append,
            List.findSome?_eq_none_iff.mpr gone, List.findSome?_map]
          exact told_findSome? within
      | lazy =>
          have gone' : ∀ d ∈ beyond.reverse, next' d caps' = none := fun d listed =>
            gone d (List.mem_reverse.mp listed)
          rw [Node.run, Node.run, reached, List.reverse_append, List.findSome?_append,
            List.findSome?_eq_none_iff.mpr gone', ← List.map_reverse, List.findSome?_map,
            Option.or_none]
          exact told_findSome? fun d listed => within d (List.mem_reverse.mp listed)
      | possessive => cases plain
  | group index body ih =>
      intro front back cut caps caps' same
      have stops' : StopsWithin text tail fun c caps =>
          next' c ((index, (Cursor.between front (back ++ tail)).upTo c) :: caps) :=
        fun u v cut some _ => stops u v cut some _
      have agrees' : AgreesWithin text tail
          (fun c caps => next c ((index, (Cursor.between front back).upTo c) :: caps))
          (fun c caps =>
            next' c ((index, (Cursor.between front (back ++ tail)).upTo c) :: caps)) := by
        intro front' back' cut' caps caps' same
        refine agrees front' back' cut' _ _ ?_
        have size : front.length + back.length = front'.length + back'.length := by
          rw [← List.length_append, ← List.length_append, ← cut, ← cut']
        -- The group ends before the tail, so that it holds the same in both texts.
        have held : (back ++ tail).take (front'.length - front.length) =
            back.take (front'.length - front.length) :=
          List.take_append_of_le_length (by omega)
        change (index, back.take (front'.length - front.length)) :: Captures.texts caps =
          (index, (back ++ tail).take (front'.length - front.length)) :: Captures.texts caps'
        rw [held, same]
      exact ih plain stops' agrees' front back cut caps caps' same
  | stand anchor =>
      intro front back cut caps caps' same
      cases anchor with
      | textStart =>
          have place : Anchor.textStart.holds (.between front (back ++ tail)) =
              Anchor.textStart.holds (.between front back) := rfl
          dsimp only
          rw [Node.run, Node.run, place]
          split
          · exact agrees front back cut caps caps' same
          · rfl
      | _ => cases plain
  | _ => cases plain

theorem stopsWithin_test {test : Test} (unlike : ∀ x ∈ tail, test.accepts x = false) :
    StopsWithin text tail fun c caps => (Node.one test).run c caps finish := by
  intro u v cut some caps
  cases v with
  | nil => rfl
  | cons x v =>
      have other : test.accepts x = false := unlike x (by simp [cut])
      dsimp only
      rw [Node.run_one, other]
      rfl

theorem agreesWithin_test {test : Test} (unlike : ∀ x ∈ tail, test.accepts x = false) :
    AgreesWithin text tail (fun c caps => (Node.one test).run c caps finish)
      fun c caps => (Node.one test).run c caps finish := by
  intro front back cut caps caps' same
  cases back with
  | nil =>
      cases tail with
      | nil => rfl
      | cons x tail =>
          have other : test.accepts x = false := unlike x List.mem_cons_self
          dsimp only
          rw [List.nil_append, Node.run_one, other]
          rfl
  | cons x back =>
      dsimp only
      rw [List.cons_append, Node.run_one, Node.run_one]
      split
      · exact congrArg some same.symm
      · rfl

end Run

end Pattern

namespace Regex

open Pattern

theorem match?_eq_told (r : Regex) (cs : List Char) :
    r.match? cs = (told (r.body.run (.between [] cs) [] finish)).map fun texts =>
      (List.range r.groups).map fun i => texts.lookup (i + 1) := by
  change (r.body.run (.between [] cs) [] finish).map _ = _
  rw [told, Option.map_map]
  congr 1
  funext o
  simp only [Function.comp_apply, Captures.lookup_texts]

/-- More text after one makes no difference to a pattern that ends with a test, if the test accepts
nothing of it. -/
theorem match?_append {r : Regex} {nodes : List Node} {test : Test}
    (ends : r.body = .ofList (nodes ++ [.one test])) (plain : (Node.ofList nodes).isPlain = true)
    (text : List Char) {tail : List Char} (unlike : ∀ x ∈ tail, test.accepts x = false) :
    r.match? (text ++ tail) = r.match? text := by
  have run (cs : List Char) : r.body.run (.between [] cs) [] finish =
      (Node.ofList nodes).run (.between [] cs) [] fun c caps =>
        (Node.one test).run c caps finish := by
    rw [ends, Node.run_append]
    rfl
  have agrees : AgreesWithin text tail _ _ :=
    (agreesWithin_test unlike).run plain (stopsWithin_test unlike)
  rw [match?_eq_told, match?_eq_told, run, run]
  exact congrArg _ (agrees [] text rfl [] [] rfl)

end Regex
end ReleaseAdvisor
