import ReleaseAdvisor.Pattern.Match

/-!
What a match keeps in its groups. A node hands on the captures that it was given, with its own
before them; so a group that lies on every way through a pattern holds something in every match.
-/

namespace ReleaseAdvisor.Pattern

def Extends (m : Matcher) : Prop :=
  ∀ {c caps next outcome}, m c caps next = some outcome →
    ∃ c' caps', next c' caps' = some outcome ∧ caps <:+ caps'

theorem Extends.settled {m : Matcher} (extend : Extends m) {c c' : Cursor} {caps caps' : Captures}
    (found : (m c caps fun d held => some (d, held)) = some (c', caps')) : caps <:+ caps' := by
  obtain ⟨d, held, same, kept⟩ := extend found
  cases same
  exact kept

section Loop

variable {body : Matcher} {least : Nat} {most : Option Nat} (extend : Extends body)

include extend

theorem loopGreedy_extends (fuel count : Nat) (last : Option Nat) :
    Extends (loopGreedy body least most fuel count last) := by
  induction fuel generalizing count last with
  | zero =>
      intro c caps next outcome found
      cases found
  | succ fuel ih =>
      intro c caps next outcome found
      rw [loopGreedy] at found
      split at found
      · obtain ⟨c', caps', found, kept⟩ := extend found
        obtain ⟨c'', caps'', found, kept'⟩ := ih _ _ found
        exact ⟨c'', caps'', found, kept.trans kept'⟩
      · split at found
        · split at found
          · rename_i round
            cases found
            obtain ⟨c', caps', found, kept⟩ := extend round
            obtain ⟨c'', caps'', found, kept'⟩ := ih _ _ found
            exact ⟨c'', caps'', found, kept.trans kept'⟩
          · exact ⟨c, caps, found, List.suffix_refl _⟩
        · exact ⟨c, caps, found, List.suffix_refl _⟩

theorem loopLazy_extends (fuel count : Nat) (last : Option Nat) :
    Extends (loopLazy body least most fuel count last) := by
  induction fuel generalizing count last with
  | zero =>
      intro c caps next outcome found
      cases found
  | succ fuel ih =>
      intro c caps next outcome found
      rw [loopLazy] at found
      split at found
      · obtain ⟨c', caps', found, kept⟩ := extend found
        obtain ⟨c'', caps'', found, kept'⟩ := ih _ _ found
        exact ⟨c'', caps'', found, kept.trans kept'⟩
      · split at found
        · rename_i left
          cases found
          exact ⟨c, caps, left, List.suffix_refl _⟩
        · split at found
          · obtain ⟨c', caps', found, kept⟩ := extend found
            obtain ⟨c'', caps'', found, kept'⟩ := ih _ _ found
            exact ⟨c'', caps'', found, kept.trans kept'⟩
          · cases found

theorem loopPossessive_extends (fuel count : Nat) (last : Option Nat) {c c' : Cursor}
    {caps caps' : Captures}
    (found : loopPossessive body least most fuel count last c caps = some (c', caps')) :
    caps <:+ caps' := by
  induction fuel generalizing count last c caps with
  | zero =>
      cases found
      exact List.suffix_refl _
  | succ fuel ih =>
      rw [loopPossessive] at found
      split at found
      · split at found
        · rename_i settled
          exact (extend.settled settled).trans (ih _ _ found)
        · cases found
      · split at found
        · split at found
          · rename_i settled
            exact (extend.settled settled).trans (ih _ _ found)
          · cases found
            exact List.suffix_refl _
        · cases found
          exact List.suffix_refl _

end Loop

theorem Node.run_extends (node : Node) : Extends node.run := by
  -- Captures are only ever put before the others, so that those at hand stay an end of the list.
  induction node with
  | empty =>
      intro c caps next outcome found
      exact ⟨c, caps, found, List.suffix_refl _⟩
  | one test =>
      intro c caps next outcome found
      obtain ⟨c', _, found⟩ := Option.bind_eq_some_iff.mp found
      exact ⟨c', caps, found, List.suffix_refl _⟩
  | seq first second ih ih' =>
      intro c caps next outcome found
      obtain ⟨c', caps', found, kept⟩ := ih found
      obtain ⟨c'', caps'', found, kept'⟩ := ih' found
      exact ⟨c'', caps'', found, kept.trans kept'⟩
  | either first second ih ih' =>
      intro c caps next outcome found
      rw [Node.run] at found
      split at found
      · rename_i way
        cases found
        exact ih way
      · exact ih' found
  | many test least most pace =>
      intro c caps next outcome found
      cases pace with
      | greedy =>
          rw [Node.run] at found
          obtain ⟨c', _, found⟩ := List.exists_of_findSome?_eq_some found
          exact ⟨c', caps, found, List.suffix_refl _⟩
      | lazy =>
          rw [Node.run] at found
          obtain ⟨c', _, found⟩ := List.exists_of_findSome?_eq_some found
          exact ⟨c', caps, found, List.suffix_refl _⟩
      | possessive =>
          rw [Node.run] at found
          obtain ⟨c', _, found⟩ := Option.bind_eq_some_iff.mp found
          exact ⟨c', caps, found, List.suffix_refl _⟩
  | loop body least most pace ih =>
      intro c caps next outcome found
      cases pace with
      | greedy => exact loopGreedy_extends ih _ _ _ found
      | lazy => exact loopLazy_extends ih _ _ _ found
      | possessive =>
          rw [Node.run] at found
          split at found
          · rename_i c' caps' settled
            exact ⟨c', caps', found, loopPossessive_extends ih _ _ _ settled⟩
          · cases found
  | group index body ih =>
      intro c caps next outcome found
      obtain ⟨c', caps', found, kept⟩ := ih found
      exact ⟨c', _, found, kept.trans (List.suffix_cons _ _)⟩
  | atomic body ih =>
      intro c caps next outcome found
      rw [Node.run] at found
      split at found
      · rename_i c' caps' settled
        exact ⟨c', caps', found, ih.settled settled⟩
      · cases found
  | ahead wanted body ih =>
      intro c caps next outcome found
      rw [Node.run.eq_def] at found
      dsimp only at found
      split at found
      · rename_i settled
        exact ⟨c, _, found, ih.settled settled⟩
      · exact ⟨c, caps, found, List.suffix_refl _⟩
      · cases found
  | behind wanted least most body ih =>
      intro c caps next outcome found
      rw [Node.run.eq_def] at found
      dsimp only at found
      split at found
      · rename_i settled
        split at settled
        · exact ⟨c, _, found, ih.settled settled⟩
        · cases settled
      · exact ⟨c, caps, found, List.suffix_refl _⟩
      · cases found
  | again index folding =>
      intro c caps next outcome found
      rw [Node.run] at found
      split at found
      · obtain ⟨c', _, found⟩ := Option.bind_eq_some_iff.mp found
        exact ⟨c', caps, found, List.suffix_refl _⟩
      · cases found
  | given index present absent ih ih' =>
      intro c caps next outcome found
      rw [Node.run] at found
      split at found
      · exact ih found
      · exact ih' found
  | stand anchor =>
      intro c caps next outcome found
      rw [Node.run] at found
      split at found
      · exact ⟨c, caps, found, List.suffix_refl _⟩
      · cases found

/-- The group lies on every way through the node. -/
def Node.passes (index : Nat) : Node → Bool
  | .seq first second => first.passes index || second.passes index
  | .either first second => first.passes index && second.passes index
  | .group own body => own == index || body.passes index
  | .atomic body => body.passes index
  | .given _ present absent => present.passes index && absent.passes index
  | _ => false

theorem lookup_isSome_of_suffix {caps caps' : Captures} {index : Nat} (kept : caps <:+ caps')
    (held : (caps.lookup index).isSome = true) : (caps'.lookup index).isSome = true := by
  obtain ⟨own, rfl⟩ := kept
  rw [List.lookup_append]
  cases own.lookup index with
  | none => exact held
  | some span => rfl

theorem Node.run_passes {index : Nat} {node : Node} (passes : node.passes index = true) {c : Cursor}
    {caps : Captures} {next : Next} {outcome : Outcome}
    (found : node.run c caps next = some outcome) :
    ∃ c' caps', next c' caps' = some outcome ∧ (caps'.lookup index).isSome = true := by
  -- What a part of a sequence holds is kept by the parts after it.
  induction node generalizing c caps next outcome with
  | seq first second ih ih' =>
      rcases Bool.or_eq_true _ _ ▸ passes with within | within
      · obtain ⟨c', caps', found, held⟩ := ih within found
        obtain ⟨c'', caps'', found, kept⟩ := second.run_extends found
        exact ⟨c'', caps'', found, lookup_isSome_of_suffix kept held⟩
      · obtain ⟨c', caps', found, _⟩ := first.run_extends found
        exact ih' within found
  | either first second ih ih' =>
      obtain ⟨left, right⟩ := Bool.and_eq_true _ _ ▸ passes
      rw [Node.run] at found
      split at found
      · rename_i way
        cases found
        exact ih left way
      · exact ih' right found
  | group own body ih =>
      rcases Bool.or_eq_true _ _ ▸ passes with same | within
      · obtain ⟨c', caps', found, _⟩ := body.run_extends found
        refine ⟨c', _, found, ?_⟩
        rw [beq_iff_eq.mp same, List.lookup_cons_self]
        rfl
      · obtain ⟨c', caps', found, held⟩ := ih within found
        exact ⟨c', _, found, lookup_isSome_of_suffix (List.suffix_cons _ _) held⟩
  | atomic body ih =>
      rw [Node.run] at found
      split at found
      · rename_i settled
        obtain ⟨d, kept, same, held⟩ := ih passes settled
        cases same
        exact ⟨_, _, found, held⟩
      · cases found
  | given _ present absent ih ih' =>
      obtain ⟨left, right⟩ := Bool.and_eq_true _ _ ▸ passes
      rw [Node.run] at found
      split at found
      · exact ih left found
      · exact ih' right found
  | _ => cases passes

end ReleaseAdvisor.Pattern

namespace ReleaseAdvisor.Regex

theorem match?_holds {r : Regex} {i : Nat} (known : i < r.groups)
    (passes : r.body.passes (i + 1) = true) {cs : List Char} {found : Found}
    (matched : r.match? cs = some found) : (found[i]?.join).isSome = true := by
  obtain ⟨⟨c, caps⟩, run, rfl⟩ := Option.map_eq_some_iff.mp matched
  obtain ⟨c', caps', same, held⟩ := Pattern.Node.run_passes passes run
  cases same
  simpa [known] using held

end ReleaseAdvisor.Regex
