import ReleaseAdvisor.Proofs.Told

/-!
Where failures come from. A configuration settles by itself whether an analysis fails, and how:
what is wrong with it shows before any commit is looked at, and if nothing is, every list of commits
is analyzed to the end.
-/

namespace ReleaseAdvisor

open Outcome

/-! ### Commits of the right kinds -/

/-- The value stands for a commit: it is a message, or a mapping whose message and hash are texts
or missing. -/
inductive IsSubmission : Value → Prop
  | message (s : String) : IsSubmission (.text s)
  | members {entries : Entries} (message : Grammar.IsGroup (entries.field "message"))
      (hash : Grammar.IsGroup (entries.field "hash")) : IsSubmission (.mapping entries)

namespace RawCommit

theorem textOr_eq_text {v : Value} (group : Grammar.IsGroup v) :
    ∃ s, Submission.textOr v = .text s := by
  unfold Submission.textOr
  rcases group with rfl | ⟨s, rfl⟩
  · exact ⟨"", rfl⟩
  · split
    · exact ⟨s, rfl⟩
    · exact ⟨"", rfl⟩

theorem ofValue_returns {v : Value} (given : IsSubmission v) :
    ∃ raw, ofValue v = .ok raw ∧ raw.HasTextHash := by
  cases given with
  | message s => exact ⟨⟨s, .text "", false⟩, rfl, "", rfl⟩
  | @members entries message hash =>
      obtain ⟨s, text⟩ := textOr_eq_text message
      obtain ⟨h, named⟩ := textOr_eq_text hash
      refine ⟨⟨s, .text h, (entries.field "squash").truthy⟩, ?_, h, rfl⟩
      simp only [ofValue, Submission.ofValue, text, named]
      rfl

theorem mapM_ofValue_returns {values : List Value} (given : ∀ v ∈ values, IsSubmission v) :
    ∃ raws, values.mapM ofValue = .ok raws ∧ ∀ raw ∈ raws, raw.HasTextHash := by
  obtain ⟨raws, read⟩ : ∃ raws, values.mapM ofValue = .ok raws := by
    refine mapM_returns fun v listed => ?_
    obtain ⟨raw, first, _⟩ := ofValue_returns (given v listed)
    exact ⟨raw, first⟩
  refine ⟨raws, read, fun raw listed => ?_⟩
  obtain ⟨v, member, found⟩ := mapM_mem read raw listed
  obtain ⟨_, same, text⟩ := ofValue_returns (given v member)
  cases found.symm.trans same
  exact text

end RawCommit

/-! ### Options -/

namespace Config

theorem set_failsOnly (source : String) (config : Config) (written : String) (value : Value) :
    FailsOnly (fun failure => ∃ r, failure = .report r) (set source config written value) := by
  unfold set
  dsimp only
  split
  iterate 4 · split <;> first | exact .ok _ | exact .error ⟨_, rfl⟩
  · exact .ok _
  · exact .error ⟨_, rfl⟩

theorem ofGiven_failsOnly (entries : List (String × Value)) :
    FailsOnly (fun failure => ∃ r, failure = .report r) (ofGiven entries) :=
  .foldlM entries (fun config e _ => set_failsOnly _ config e.1 e.2) {}

theorem isDocumented_of_no_module {w : Workspace} {config : Config}
    (own : Grammar.Layer.IsDocumented (config.parserOptions.getD []))
    (none : Grammar.module? config = none) : config.IsDocumented w where
  own := own
  module role reference layer asked := by
    rw [none] at asked
    cases asked

theorem prepare_outcome (w : Workspace) (config : Config) :
    (config.prepare w).outcome = do
      let rules ← (RuleSet.load w config.rules).outcome
      let g ← (Grammar.load w config).outcome
      return ⟨rules, g, config.isInitial⟩ := by
  simp only [prepare, Grammar.load, Traced.outcome_bind, bind_assoc]
  rfl

def analyzeGiven (w : Workspace) (entries : List (String × Value)) (commits : List Value) :
    Traced (Option Release) := do
  let config ← Traced.ofExcept (ofGiven entries)
  config.analyze w (commits.mapM RawCommit.ofValue)

/-- Whatever commits are given, the analysis fails in the same way and tells nothing. -/
def AlwaysFails (w : Workspace) (entries : List (String × Value)) (failure : Failure) : Prop :=
  ∀ commits, (analyzeGiven w entries commits).outcome = .error failure ∧
    Event.told (analyzeGiven w entries commits).events = []

section Given

variable {w : Workspace} {entries : List (String × Value)} {config : Config} {failure : Failure}

theorem analyzeGiven_eq (given : ofGiven entries = .ok config) (commits : List Value) :
    analyzeGiven w entries commits = config.analyze w (commits.mapM RawCommit.ofValue) := by
  rw [analyzeGiven, given]
  change (Traced.ofExcept (.ok config)).andThen _ = _
  simp only [Traced.andThen, Traced.ofExcept, List.nil_append]

theorem alwaysFails_of_ofGiven (fails : ofGiven entries = .error failure) :
    AlwaysFails w entries failure := by
  intro commits
  rw [analyzeGiven, fails]
  exact ⟨rfl, rfl⟩

theorem alwaysFails_of_prepare (given : ofGiven entries = .ok config)
    (fails : (config.prepare w).outcome = .error failure) : AlwaysFails w entries failure := by
  intro commits
  have broken : config.analyze w (commits.mapM RawCommit.ofValue) =
      ⟨(config.prepare w).events, .error failure⟩ := by
    simp only [analyze, bind, Traced.andThen, fails]
  rw [analyzeGiven_eq given, broken]
  exact ⟨rfl, config.prepare_isSilent w⟩

theorem analyzeGiven_returns (given : ofGiven entries = .ok config) {s : Setup}
    (loads : (config.prepare w).outcome = .ok s) (typed : s.grammar.IsTyped) {commits : List Value}
    (kinds : ∀ v ∈ commits, IsSubmission v) :
    ∃ r, (analyzeGiven w entries commits).outcome = .ok r := by
  obtain ⟨raws, read, texts⟩ := RawCommit.mapM_ofValue_returns kinds
  obtain ⟨kept, left⟩ := Setup.keptPairs_returns typed texts
  have tells := s.told_analyze raws
  rw [left] at tells
  obtain ⟨analysis, analyzed, _⟩ := map_eq_ok.mp tells
  refine ⟨analysis.release, ?_⟩
  rw [analyzeGiven_eq given, read, analyze_of_loads loads, analyzed]
  rfl

end Given

end Config

open Sample

instance decidableExistsReport {α : Type} (a : Except Failure α) (p : Report → Prop)
    [DecidablePred p] : Decidable (∃ r, a = .error (.report r) ∧ p r) :=
  match a with
  | .error (.report r) => decidable_of_iff (p r) (by simp)
  | .error (.refusal _) | .error (.misuse _) | .ok _ => isFalse (by simp)

def Sample.twiceWrong : List (String × Value) :=
  [("parserOpts", .ofNamed [("headerPattern", .text "(")]),
    ("release_rules", .list [.ofNamed [("type", .text "feat")]])]

def Sample.twoTypes : Workspace :=
  { root := ⟨"/", []⟩
    files := [(["r.toml"], {
      content := .text "[[rules]]\ntype = \"a\"\ntype = \"b\"\nrelease = \"minor\"\n" })] }

end ReleaseAdvisor
