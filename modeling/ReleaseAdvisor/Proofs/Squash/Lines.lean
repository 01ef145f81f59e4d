import ReleaseAdvisor.Commit.Squash
import ReleaseAdvisor.Proofs.Text

/-!
Lines of a message. A text breaks into lines in exactly one way: every line but the last has an
ending, no line holds a part of one, and a carriage return goes with a line feed after it.
-/

namespace ReleaseAdvisor.Squash

def isBreak (c : Char) : Bool := c == '\r' || c == '\n'

def endings : List (List Char) := [['\r', '\n'], ['\r'], ['\n']]

inductive BreaksInto : List Char → List (List Char) → Prop where
  | last {line : List Char} (whole : ∀ c ∈ line, isBreak c = false) : BreaksInto line [line]
  | next {line ending rest : List Char} {later : List (List Char)}
      (whole : ∀ c ∈ line, isBreak c = false) (ends : ending ∈ endings)
      (alone : ending = ['\r'] → rest.head? ≠ some '\n') (tail : BreaksInto rest later) :
      BreaksInto (line ++ ending ++ rest) (line :: later)

theorem linesFrom_whole (line before rest : List Char) (whole : ∀ c ∈ line, isBreak c = false) :
    linesFrom before (line ++ rest) = linesFrom (line.reverse ++ before) rest := by
  induction line generalizing before with
  | nil => rfl
  | cons c line ih =>
      have inside := whole c List.mem_cons_self
      simp only [isBreak, Bool.or_eq_false_iff, beq_eq_false_iff_ne, ne_eq] at inside
      have step : linesFrom before (c :: (line ++ rest)) =
          linesFrom (c :: before) (line ++ rest) := by
        rw [linesFrom]
        · exact fun _ same _ => inside.1 same
        · exact inside.1
        · exact inside.2
      rw [List.cons_append, step, ih _ fun d member => whole d (List.mem_cons_of_mem _ member)]
      simp

theorem linesFrom_return (before rest : List Char) (alone : rest.head? ≠ some '\n') :
    linesFrom before ('\r' :: rest) = before.reverse :: linesFrom [] rest := by
  cases rest with
  | nil => rfl
  | cons c rest =>
      have other : c ≠ '\n' := by simpa using alone
      rw [linesFrom]
      intro later same
      exact other (List.cons.inj same).1

theorem linesFrom_ending {ending : List Char} (before rest : List Char) (ends : ending ∈ endings)
    (alone : ending = ['\r'] → rest.head? ≠ some '\n') :
    linesFrom before (ending ++ rest) = before.reverse :: linesFrom [] rest := by
  simp only [endings, List.mem_cons, List.not_mem_nil, or_false] at ends
  rcases ends with rfl | rfl | rfl
  · rfl
  · exact linesFrom_return before rest (alone rfl)
  · rfl

theorem lines_of_breaksInto {text : List Char} {found : List (List Char)}
    (breaks : BreaksInto text found) : lines text = found := by
  induction breaks with
  | @last line whole =>
      have read := linesFrom_whole line [] [] whole
      rw [List.append_nil] at read
      rw [lines, read]
      simp [linesFrom]
  | @next line ending rest later whole ends alone tail ih =>
      rw [lines, List.append_assoc, linesFrom_whole line [] _ whole,
        linesFrom_ending _ rest ends alone]
      rw [lines] at ih
      rw [ih]
      simp

theorem breaksInto_linesFrom (before text : List Char) (whole : ∀ c ∈ before, isBreak c = false) :
    BreaksInto (before.reverse ++ text) (linesFrom before text) := by
  have reversed : ∀ line : List Char, (∀ c ∈ line, isBreak c = false) →
      ∀ c ∈ line.reverse, isBreak c = false :=
    fun line inside c member => inside c (List.mem_reverse.mp member)
  fun_induction linesFrom before text with
  | case1 line =>
      rw [List.append_nil]
      exact .last (reversed line whole)
  | case2 line rest ih =>
      have tail : BreaksInto rest (linesFrom [] rest) := ih (by simp)
      have broken : BreaksInto (line.reverse ++ ['\r', '\n'] ++ rest) _ :=
        .next (reversed line whole) (by decide) (by simp) tail
      simpa using broken
  | case3 line rest alone ih =>
      have tail : BreaksInto rest (linesFrom [] rest) := ih (by simp)
      have lonely : rest.head? ≠ some '\n' := by
        intro same
        obtain ⟨later, split⟩ := List.head?_eq_some_iff.mp same
        exact alone later split
      have broken : BreaksInto (line.reverse ++ ['\r'] ++ rest) _ :=
        .next (reversed line whole) (by decide) (fun _ => lonely) tail
      simpa using broken
  | case4 line rest ih =>
      have tail : BreaksInto rest (linesFrom [] rest) := ih (by simp)
      have broken : BreaksInto (line.reverse ++ ['\n'] ++ rest) _ :=
        .next (reversed line whole) (by decide) (by simp) tail
      simpa using broken
  | case5 line c rest _ first second ih =>
      have inside : ∀ d ∈ c :: line, isBreak d = false := by
        intro d member
        rcases List.mem_cons.mp member with rfl | member
        · simpa [isBreak] using ⟨first, second⟩
        · exact whole d member
      simpa using ih inside

theorem breaksInto_iff {text : List Char} {found : List (List Char)} :
    BreaksInto text found ↔ lines text = found := by
  constructor
  · exact lines_of_breaksInto
  · rintro rfl
    exact breaksInto_linesFrom [] text (by simp)

end ReleaseAdvisor.Squash
