import ReleaseAdvisor.Candidate
import ReleaseAdvisor.Proofs.Decision
import ReleaseAdvisor.Proofs.RuleFaults

/-!
The most severe of some values that are offered as decisions. One that is no decision is turned
down, and the first such value is the one that is reported; all others stand for what they say, and
then only which of them are offered counts.
-/

namespace ReleaseAdvisor.Candidate

open Outcome

/-! ### Values that are decisions -/

/-- The decision that a value says: the name of a release type, false, null, or the mark that no
rule spoke. -/
inductive StandsFor : Candidate → Decision → Prop
  | release (r : Release) : StandsFor (.value (.text r.name)) (some (.release r))
  | suppress : StandsFor (.value (.bool false)) (some .suppress)
  | nothing : StandsFor (.value .null) (some .nothing)
  | unset : StandsFor .unset none

def IsValid (c : Candidate) : Prop := ∃ d, c.StandsFor d

def ofDecision : Decision → Candidate
  | some (.release r) => .value (.text r.name)
  | some .suppress => .value (.bool false)
  | some .nothing => .value .null
  | none => .unset

theorem standsFor_ofDecision (d : Decision) : (ofDecision d).StandsFor d := by
  rcases d with _ | r | _ | _
  · exact .unset
  · exact .release r
  · exact .suppress
  · exact .nothing

theorem standsFor_none_iff {c : Candidate} : c.StandsFor none ↔ c = .unset := by
  constructor
  · rintro ⟨⟩
    rfl
  · rintro rfl
    exact .unset

theorem decision_eq_ok {c : Candidate} {d : Decision} : c.decision = .ok d ↔ c.StandsFor d := by
  constructor
  · intro said
    unfold decision at said
    split at said
    · cases said
      exact .unset
    · cases said
      exact .nothing
    · cases said
      exact .suppress
    · split at said
      · rename_i r named
        cases said
        rw [Release.ofName?_eq_some.mp named]
        exact .release r
      · cases said
    · cases said
  · intro stands
    cases stands with
    | release r => simp only [decision, Release.ofName?_eq_some.mpr rfl]
    | suppress => rfl
    | nothing => rfl
    | unset => rfl

theorem StandsFor.unique {c : Candidate} {d e : Decision} (first : c.StandsFor d)
    (second : c.StandsFor e) : d = e := by
  cases (decision_eq_ok.mpr first).symm.trans (decision_eq_ok.mpr second)
  rfl

theorem isValid_iff {c : Candidate} : c.IsValid ↔ ∃ d, c.decision = .ok d := by
  simp only [IsValid, decision_eq_ok]

theorem decision_of_invalid {c : Candidate} (invalid : ¬ c.IsValid) :
    ∃ v, c = .value v ∧ c.decision = .error (.refusal (refusalOf v)) := by
  rw [isValid_iff] at invalid
  cases c with
  | unset => exact absurd ⟨none, rfl⟩ invalid
  | value v =>
      refine ⟨v, rfl, ?_⟩
      cases v with
      | null => exact absurd ⟨some .nothing, rfl⟩ invalid
      | bool b =>
          cases b with
          | false => exact absurd ⟨some .suppress, rfl⟩ invalid
          | true => rfl
      | text s =>
          cases named : Release.ofName? s with
          | some r => exact absurd ⟨some (.release r), by simp only [decision, named]⟩ invalid
          | none => simp only [decision, named]
      | _ => rfl

theorem decision_eq_error {c : Candidate} {failure : Failure} :
    c.decision = .error failure ↔
      ¬ c.IsValid ∧ ∃ v, c = .value v ∧ failure = .refusal (refusalOf v) := by
  constructor
  · intro refused
    have invalid : ¬ c.IsValid := by
      rintro ⟨d, stands⟩
      cases refused.symm.trans (decision_eq_ok.mpr stands)
    obtain ⟨v, same, turned⟩ := decision_of_invalid invalid
    cases refused.symm.trans turned
    exact ⟨invalid, v, same, rfl⟩
  · rintro ⟨invalid, v, rfl, rfl⟩
    obtain ⟨_, same, turned⟩ := decision_of_invalid invalid
    cases same
    exact turned

theorem isHigher_of_standsFor {current candidate : Candidate} {d e : Decision}
    (first : current.StandsFor d) (second : candidate.StandsFor e) :
    isHigher current candidate = .ok (Decision.isHigher d e) := by
  rw [isHigher, decision_eq_ok.mpr first, decision_eq_ok.mpr second]
  rfl

/-! ### The most severe one -/

theorem highest_eq_ok {values : List Candidate} {d : Decision} :
    highest values = .ok d ↔
      ∃ decisions, List.Forall₂ StandsFor values decisions ∧ d = Decision.highest decisions := by
  have each : ∀ decisions, values.mapM decision = .ok decisions ↔
      List.Forall₂ StandsFor values decisions := by
    intro decisions
    simp only [mapM_eq_ok, decision_eq_ok]
  rw [highest, bind_eq_ok]
  constructor
  · rintro ⟨decisions, read, same⟩
    cases same
    exact ⟨decisions, (each decisions).mp read, rfl⟩
  · rintro ⟨decisions, stand, rfl⟩
    exact ⟨decisions, (each decisions).mpr stand, rfl⟩

theorem mem_of_forall₂ {values : List Candidate} {decisions : List Decision}
    (stand : List.Forall₂ StandsFor values decisions) {d : Decision} :
    d ∈ decisions ↔ ∃ c ∈ values, c.StandsFor d := by
  induction stand with
  | nil => simp
  | cons first _ ih =>
      rw [List.mem_cons, ih, List.exists_mem_cons_iff]
      refine or_congr_left ⟨?_, fun own => own.unique first⟩
      rintro rfl
      exact first

theorem highest_eq_error {values : List Candidate} {failure : Failure} :
    highest values = .error failure ↔
      ∃ earlier v later, values = earlier ++ .value v :: later ∧
        (∀ c ∈ earlier, c.IsValid) ∧ ¬ (Candidate.value v).IsValid ∧
          failure = .refusal (refusalOf v) := by
  have same : highest values = .error failure ↔ values.mapM decision = .error failure := by
    rw [highest, bind_eq_error]
    simp [pure, Except.pure]
  rw [same, mapM_eq_error]
  simp only [← isValid_iff, decision_eq_error]
  constructor
  · rintro ⟨earlier, c, later, split, valid, invalid, v, rfl, turned⟩
    exact ⟨earlier, v, later, split, valid, invalid, turned⟩
  · rintro ⟨earlier, v, later, split, valid, invalid, turned⟩
    exact ⟨earlier, .value v, later, split, valid, invalid, v, rfl, turned⟩

section Valid

variable {values others : List Candidate}

theorem highest_of_valid (valid : ∀ c ∈ values, c.IsValid) :
    ∃ d, highest values = .ok d ∧ (d = none ∨ ∃ c ∈ values, c.StandsFor d) ∧
      ∀ c ∈ values, ∀ e, c.StandsFor e → Decision.rank d ≤ Decision.rank e := by
  simp only [isValid_iff] at valid
  obtain ⟨decisions, read⟩ := mapM_returns valid
  simp only [mapM_eq_ok, decision_eq_ok] at read
  refine ⟨_, highest_eq_ok.mpr ⟨decisions, read, rfl⟩, ?_, fun c listed e stands => ?_⟩
  · exact (Decision.highest_mem decisions).imp_right (mem_of_forall₂ read).mp
  · exact Decision.rank_highest_le ((mem_of_forall₂ read).mpr ⟨c, listed, stands⟩)

theorem highest_of_unset (unset : ∀ c ∈ values, c = .unset) : highest values = .ok none := by
  obtain ⟨d, found, silent | ⟨c, listed, stands⟩, _⟩ :=
    highest_of_valid fun c listed => ⟨none, standsFor_none_iff.mpr (unset c listed)⟩
  · rw [found, silent]
  · rw [unset c listed] at stands
    rw [found, stands.unique .unset]

theorem highest_of_said (valid : ∀ c ∈ values, c.IsValid) (said : ∃ c ∈ values, c ≠ .unset) :
    ∃ c ∈ values, ∃ d, c.StandsFor d ∧ highest values = .ok d ∧
      ∀ other ∈ values, isHigher c other = .ok false := by
  obtain ⟨d, found, silent | ⟨c, listed, stands⟩, least⟩ := highest_of_valid valid
  · subst silent
    obtain ⟨c, listed, set⟩ := said
    obtain ⟨e, stands⟩ := valid c listed
    have same : e = none := Decision.rank_injective
      (Nat.le_antisymm (Decision.rank_le_none e) (least c listed e stands))
    exact absurd (standsFor_none_iff.mp (same ▸ stands)) set
  · refine ⟨c, listed, d, stands, found, fun other member => ?_⟩
    obtain ⟨e, said⟩ := valid other member
    rw [isHigher_of_standsFor stands said, Decision.isHigher,
      decide_eq_false (Nat.not_lt.mpr (least other member e said))]

theorem highest_congr (valid : ∀ c ∈ values, c.IsValid) (same : ∀ c, c ∈ others ↔ c ∈ values) :
    highest others = highest values := by
  have validToo : ∀ c ∈ others, c.IsValid := fun c listed => valid c ((same c).mp listed)
  obtain ⟨d, found, _⟩ := highest_of_valid valid
  obtain ⟨e, foundToo, _⟩ := highest_of_valid validToo
  obtain ⟨decisions, stand, rfl⟩ := highest_eq_ok.mp found
  obtain ⟨more, standToo, rfl⟩ := highest_eq_ok.mp foundToo
  rw [found, foundToo]
  congr 1
  apply Decision.highest_congr
  intro d
  simp only [mem_of_forall₂ stand, mem_of_forall₂ standToo, same]

theorem highest_pair (d e : Decision) :
    highest [ofDecision d, ofDecision e] = .ok (Decision.higher d e) := by
  refine highest_eq_ok.mpr ⟨[d, e], ?_, ?_⟩
  · exact .cons (standsFor_ofDecision d) (.cons (standsFor_ofDecision e) .nil)
  · simp [Decision.highest]

theorem highest_append {d e : Decision} (first : highest values = .ok d)
    (second : highest others = .ok e) :
    highest (values ++ others) = highest [ofDecision d, ofDecision e] := by
  obtain ⟨decisions, stand, rfl⟩ := highest_eq_ok.mp first
  obtain ⟨more, standToo, rfl⟩ := highest_eq_ok.mp second
  rw [highest_pair, ← Decision.highest_append]
  exact highest_eq_ok.mpr ⟨decisions ++ more, List.rel_append stand standToo, rfl⟩

end Valid

/-- Of some values the first one that is no decision is turned down, wherever it stands. If all are
decisions, the most severe is no decision where none of them says anything, and else one of them
that none of them exceeds; only which values there are counts, not their order and not how often
each occurs; and the most severe of two lists is the more severe of what each comes to. -/
theorem highest_settled (values : List Candidate) :
    (∀ failure, highest values = .error failure ↔
      ∃ earlier v later, values = earlier ++ .value v :: later ∧
        (∀ c ∈ earlier, c.IsValid) ∧ ¬ (Candidate.value v).IsValid ∧
          failure = .refusal (refusalOf v)) ∧
    ((∀ c ∈ values, c.IsValid) →
      ((∀ c ∈ values, c = .unset) → highest values = .ok none) ∧
      ((∃ c ∈ values, c ≠ .unset) → ∃ c ∈ values, ∃ d, c.StandsFor d ∧ highest values = .ok d ∧
        ∀ other ∈ values, isHigher c other = .ok false) ∧
      (∀ others, (∀ c, c ∈ others ↔ c ∈ values) → highest others = highest values) ∧
      ∀ others, (∀ c ∈ others, c.IsValid) →
        ∃ d e, highest values = .ok d ∧ highest others = .ok e ∧
          highest (values ++ others) = highest [ofDecision d, ofDecision e]) := by
  refine ⟨fun failure => highest_eq_error, fun valid => ⟨highest_of_unset, highest_of_said valid,
    fun others same => highest_congr valid same, fun others validToo => ?_⟩⟩
  obtain ⟨d, first, _⟩ := highest_of_valid valid
  obtain ⟨e, second, _⟩ := highest_of_valid validToo
  exact ⟨d, e, first, second, highest_append first second⟩

end ReleaseAdvisor.Candidate
