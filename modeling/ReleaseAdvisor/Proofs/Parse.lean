import ReleaseAdvisor.Commit.Parse
import ReleaseAdvisor.Proofs.Outcome

/-!
What can go wrong when a message is read. A blank message is refused, and any other failure is a
value of a wrong kind in the grammar.
-/

namespace ReleaseAdvisor

open Outcome

def OnlyMistyped {α : Type} (result : Except Failure α) : Prop :=
  FailsOnly (· = .misuse .kind) result

namespace Grammar

theorem itemsOf_onlyMistyped (value : Value) : OnlyMistyped (itemsOf value) := by
  unfold itemsOf
  split
  · exact .ok _
  · exact .ok _
  · exact .ok _
  · exact .error rfl

theorem startsWithAny_onlyMistyped (line : Line) (marks : List Value) :
    OnlyMistyped (startsWithAny line marks) := by
  induction marks with
  | nil => exact .ok _
  | cons mark marks ih =>
      unfold startsWithAny
      split
      · rename_i none
        cases none
      · rename_i same
        cases same
        split
        · exact .ok _
        · exact ih
      · exact .error rfl

theorem withoutComments_onlyMistyped (g : Grammar) (lines : List Line) :
    OnlyMistyped (g.withoutComments lines) := by
  have comment : ∀ line, OnlyMistyped (g.isComment line) := by
    intro line
    unfold isComment
    split
    · exact .ok _
    · exact startsWithAny_onlyMistyped line _
    · exact .error rfl
  unfold withoutComments
  split
  · exact .filterM lines fun line => (comment line).map not
  · exact .ok _

theorem correspond_onlyMistyped (p : Regex) (found : Regex.Found) (names : Value) :
    OnlyMistyped (correspond p found names) := by
  unfold correspond
  split
  · refine .bind (itemsOf_onlyMistyped names) fun items _ => ?_
    dsimp only
    split
    · exact .ok _
    · exact .error rfl
  · exact .ok _

theorem fieldsOf_onlyMistyped (p : Option Regex) (text : List Char) (names : Value) :
    OnlyMistyped (fieldsOf p text names) := by
  unfold fieldsOf
  split
  · exact .ok _
  · split
    · exact .ok _
    · exact (correspond_onlyMistyped _ _ names).map some

theorem parse_blank (g : Grammar) (message : String) (hash : Value)
    (blank : Text.blank message.toList = true) :
    g.parse message hash = .error (.refusal .emptyMessage) := by
  simp only [parse, blank, if_true]
  rfl

theorem parse_onlyMistyped (g : Grammar) (message : String) (hash : Value)
    (said : Text.blank message.toList = false) : OnlyMistyped (g.parse message hash) := by
  unfold parse
  simp only [said, Bool.false_eq_true, if_false]
  refine .bind (.map trimLines (g.withoutComments_onlyMistyped _)) fun lines _ => ?_
  refine .bind (itemsOf_onlyMistyped _) fun names _ => ?_
  split
  · exact .error rfl
  · refine .bind (fieldsOf_onlyMistyped _ _ _) fun merged _ => ?_
    refine .bind (fieldsOf_onlyMistyped _ _ _) fun header _ => ?_
    refine .bind (fieldsOf_onlyMistyped _ _ _) fun reverted _ => ?_
    exact .ok _

end Grammar
end ReleaseAdvisor
