import ReleaseAdvisor.Proofs.Decision
import ReleaseAdvisor.Rule.Basic

/-!
What a rule set decides. It is the most severe ruling of the rules that hold for the commit: that
the search ends at the first `major` does not show, and neither do the order of the rules and rules
that are written more than once.
-/

namespace ReleaseAdvisor.RuleSet

def rulings (commit : Commit) (rules : RuleSet) : List Decision :=
  (rules.filter fun rule => rule.holds commit).map fun rule => some rule.ruling

def decideThrough (commit : Commit) (best : Decision) (rules : RuleSet) : Decision :=
  rules.foldl (fun best rule =>
    if rule.holds commit then Decision.higher best (some rule.ruling) else best) best

theorem mem_rulings {commit : Commit} {rules : RuleSet} {ruling : Ruling} :
    some ruling ∈ rulings commit rules ↔
      ∃ rule ∈ rules, rule.holds commit = true ∧ rule.ruling = ruling := by
  simp [rulings, and_assoc]

theorem none_not_mem_rulings (commit : Commit) (rules : RuleSet) :
    none ∉ rulings commit rules := by
  simp [rulings]

theorem decideThrough_major (commit : Commit) (rules : RuleSet) :
    decideThrough commit (some (.release .major)) rules = some (.release .major) := by
  induction rules with
  | nil => rfl
  | cons rule rules ih =>
      rw [decideThrough, List.foldl_cons, Decision.higher_major_left, ite_self]
      exact ih

theorem decideFrom_eq_decideThrough (commit : Commit) (best : Decision) (rules : RuleSet) :
    decideFrom commit best rules = decideThrough commit best rules := by
  induction rules generalizing best with
  | nil => rfl
  | cons rule rules ih =>
      rw [decideFrom, decideThrough, List.foldl_cons]
      change _ = decideThrough commit _ rules
      by_cases holds : rule.holds commit = true
      · by_cases above : Decision.isHigher best (some rule.ruling) = true
        · have taken : Decision.higher best (some rule.ruling) = some rule.ruling := by
            simp [Decision.higher, above]
          simp only [holds, above, taken, Bool.and_self, if_true]
          split
          · rename_i major
            rw [major, decideThrough_major]
          · exact ih _
        · have kept : Decision.higher best (some rule.ruling) = best := by
            simp [Decision.higher, above]
          simp only [holds, above, kept, Bool.and_false, Bool.false_eq_true, if_true, if_false]
          exact ih _
      · simp only [holds, Bool.false_and, Bool.false_eq_true, if_false]
        exact ih _

theorem decideThrough_eq_highest (commit : Commit) (rules : RuleSet) :
    decideThrough commit none rules = Decision.highest (rulings commit rules) := by
  rw [decideThrough, rulings, Decision.highest, List.foldl_map, List.foldl_filter]

theorem decide_eq_highest (rules : RuleSet) (commit : Commit) :
    rules.decide commit = Decision.highest (rulings commit rules) := by
  rw [decide, decideFrom_eq_decideThrough, decideThrough_eq_highest]

theorem decide_eq_none_iff {rules : RuleSet} {commit : Commit} :
    rules.decide commit = none ↔ ∀ rule ∈ rules, rule.holds commit = false := by
  rw [decide_eq_highest]
  constructor
  · intro silent rule listed
    cases holds : rule.holds commit with
    | false => rfl
    | true =>
        have ruled : some rule.ruling ∈ rulings commit rules :=
          mem_rulings.mpr ⟨rule, listed, holds, rfl⟩
        have below := Decision.rank_highest_le ruled
        rw [silent] at below
        have same : none = some rule.ruling :=
          Decision.rank_injective (Nat.le_antisymm below (Decision.rank_le_none _))
        cases same
  · intro idle
    have empty : rulings commit rules = [] := by
      rw [rulings, List.map_eq_nil_iff, List.filter_eq_nil_iff]
      intro rule listed
      simp [idle rule listed]
    rw [empty]
    rfl

theorem decide_eq_some_iff {rules : RuleSet} {commit : Commit} {ruling : Ruling} :
    rules.decide commit = some ruling ↔
      (∃ rule ∈ rules, rule.holds commit = true ∧ rule.ruling = ruling) ∧
      ∀ rule ∈ rules, rule.holds commit = true →
        Decision.isHigher (some ruling) (some rule.ruling) = false := by
  rw [decide_eq_highest]
  simp only [Decision.isHigher, decide_eq_false_iff_not, Nat.not_lt]
  constructor
  · intro best
    constructor
    · rcases Decision.highest_mem (rulings commit rules) with silent | member
      · rw [silent] at best
        cases best
      · exact mem_rulings.mp (best ▸ member)
    · intro rule listed holds
      rw [← best]
      exact Decision.rank_highest_le (mem_rulings.mpr ⟨rule, listed, holds, rfl⟩)
  · rintro ⟨ruled, least⟩
    refine Decision.highest_eq_of_least (mem_rulings.mpr ruled) fun other member => ?_
    cases other with
    | none => exact absurd member (none_not_mem_rulings commit rules)
    | some other =>
        obtain ⟨rule, listed, holds, rfl⟩ := mem_rulings.mp member
        exact least rule listed holds

theorem decide_congr {first second : RuleSet} (commit : Commit)
    (same : ∀ rule, rule ∈ first ↔ rule ∈ second) : first.decide commit = second.decide commit := by
  rw [decide_eq_highest, decide_eq_highest]
  apply Decision.highest_congr
  intro d
  simp only [rulings, List.mem_map, List.mem_filter, same]

theorem decide_append (first second : RuleSet) (commit : Commit) :
    decide (first ++ second) commit =
      Decision.higher (first.decide commit) (second.decide commit) := by
  simp only [decide_eq_highest, rulings, List.filter_append, List.map_append,
    Decision.highest_append]

/-- A rule set decides the most severe ruling of just the rules that hold for the commit, and
nothing if none holds: the ruling of one of them that no other exceeds. So neither the order of
rules nor their repetition matters, two rule sets together decide the more severe of what each
decides, and going on past a `major` would change nothing. -/
theorem decide_most_severe (rules : RuleSet) (commit : Commit) :
    rules.decide commit = Decision.highest (rulings commit rules) ∧
    (rules.decide commit = none ↔ ∀ rule ∈ rules, rule.holds commit = false) ∧
    (∀ ruling, rules.decide commit = some ruling ↔
      (∃ rule ∈ rules, rule.holds commit = true ∧ rule.ruling = ruling) ∧
      ∀ rule ∈ rules, rule.holds commit = true →
        Decision.isHigher (some ruling) (some rule.ruling) = false) ∧
    (∀ others : RuleSet, (∀ rule, rule ∈ others ↔ rule ∈ rules) →
      others.decide commit = rules.decide commit) ∧
    (∀ others : RuleSet, decide (rules ++ others) commit =
      Decision.higher (rules.decide commit) (others.decide commit)) ∧
    rules.decide commit = decideThrough commit none rules :=
  ⟨decide_eq_highest rules commit, decide_eq_none_iff, fun _ => decide_eq_some_iff,
    fun _ same => decide_congr commit same, fun others => decide_append rules others commit,
    decideFrom_eq_decideThrough commit none rules⟩

end ReleaseAdvisor.RuleSet
