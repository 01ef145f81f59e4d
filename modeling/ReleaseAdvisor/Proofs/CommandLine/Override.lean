import ReleaseAdvisor.CommandLine.Run
import ReleaseAdvisor.Proofs.Analysis
import ReleaseAdvisor.Proofs.CommandLine.Arguments
import ReleaseAdvisor.Proofs.Failures
import ReleaseAdvisor.Proofs.Layers

/-!
Options of the command line against those of the file. What an option of the command line gives
takes the place of what the file says, with one exception: a preset of the file stays before a
module of the command line.
-/

namespace ReleaseAdvisor

open Outcome

theorem Config.load_of_file {w : Workspace} {asked : Option Path} {r : Resource} {cs : List Char}
    (found : w.file? (asked.getD (w.root.child fileName)) = .ok (some r))
    (reads : r.content.read = .ok cs) :
    (load w asked).outcome = ofFile (asked.getD (w.root.child fileName)) cs := by
  obtain ⟨content, imported⟩ := r
  rw [load, Traced.outcome_bind, Traced.outcome_ofExcept, found, ok_bind]
  cases content with
  | text s =>
      change (Content.text s).read >>= _ = _
      rw [reads, ok_bind]
  | undecodable words => cases reads
  | denied => cases reads

namespace Grammar

theorem given?_given {name : Option String} {s : String} (given : given? name = some s) :
    given? (some s) = some s := by
  obtain ⟨_, some⟩ := Option.filter_eq_some_iff.mp given
  exact Option.filter_eq_some_iff.mpr ⟨rfl, some⟩

theorem IsBase.of_preset {w : Workspace} {config : Config} {name : String} {base : Layer}
    (found : IsBase w { preset := some name } base) (named : given? (some name) = some name)
    (asked : config.preset = some name) : IsBase w config base := by
  have given : given? config.preset = some name := asked ▸ named
  cases found with
  | preset other known =>
      cases named.symm.trans other
      exact .preset given known
  | presetModule other unknown loaded =>
      cases named.symm.trans other
      exact .presetModule given unknown loaded
  | module unnamed _ _ => cases unnamed.symm.trans named
  | first unnamed _ _ => cases unnamed.symm.trans named
  | nothing unnamed _ _ => cases unnamed.symm.trans named

theorem IsBase.of_grammar {w : Workspace} {config : Config} {reference : String} {base : Layer}
    (found : IsBase w { grammar := some reference } base)
    (named : given? (some reference) = some reference) (unnamed : given? config.preset = none)
    (asked : config.grammar = some reference) : IsBase w config base := by
  have given : given? config.grammar = some reference := asked ▸ named
  cases found with
  | preset other _ => cases other
  | presetModule other _ _ => cases other
  | module _ other loaded =>
      cases named.symm.trans other
      exact .module unnamed given loaded
  | first _ alone _ => cases alone.symm.trans named
  | nothing _ alone _ => cases alone.symm.trans named

theorem IsBase.congr {w : Workspace} {config other : Config} {base : Layer}
    (found : IsBase w config base) (preset : other.preset = config.preset)
    (grammar : other.grammar = config.grammar)
    (single : other.parserOptions = config.parserOptions) : IsBase w other base := by
  cases found with
  | preset named known => exact .preset (preset ▸ named) known
  | presetModule named unknown loaded => exact .presetModule (preset ▸ named) unknown loaded
  | module unnamed named loaded => exact .module (preset ▸ unnamed) (grammar ▸ named) loaded
  | first unnamed alone bare => exact .first (preset ▸ unnamed) (grammar ▸ alone) (single ▸ bare)
  | nothing unnamed alone more => exact .nothing (preset ▸ unnamed) (grammar ▸ alone) (single ▸ more)

theorem load_of_base {w : Workspace} {config : Config} {base : Layer}
    (found : IsBase w config base) : (load w config).outcome =
      compile (.ofLayer (mergeLayers [base, config.parserOptions.getD []])) := by
  rw [load, loadOptions, Traced.outcome_bind, Traced.outcome_bind, found.loads]
  rfl

theorem load_of_preset (w : Workspace) {config : Config} {name : String}
    (named : given? config.preset = some name) (grammar : Option String) :
    (load w { config with grammar := grammar }).outcome = (load w config).outcome := by
  have base : loadBase w { config with grammar := grammar } = loadBase w config := by
    unfold loadBase
    simp only [named]
  simp only [load, loadOptions, Traced.outcome_bind, base]
  rfl

end Grammar

namespace CommandLine

open Grammar

namespace AnalyzeRequest

def rulesFor (r : AnalyzeRequest) (config : Config) : Value :=
  match given? r.releaseRules with
  | some reference => .text reference
  | none => config.rules

/-- The options that the file's single ones go over: those of the preset on the command line, else
of the module there, else those that the file asks for. -/
inductive IsBase (w : Workspace) (r : AnalyzeRequest) (config : Config) : Layer → Prop
  | preset {name : String} {base : Layer} (named : given? r.preset = some name)
      (found : Grammar.IsBase w { preset := some name } base) : IsBase w r config base
  | grammar {reference : String} {base : Layer} (unnamed : given? r.preset = none)
      (named : given? r.grammar = some reference)
      (found : Grammar.IsBase w { grammar := some reference } base) : IsBase w r config base
  | file {base : Layer} (unnamed : given? r.preset = none) (alone : given? r.grammar = none)
      (found : Grammar.IsBase w config base) : IsBase w r config base

/-- What the command line and the file ask for together, the command line first. -/
structure Resolves (w : Workspace) (r : AnalyzeRequest) (config : Config) (s : Setup) : Prop where
  rules : (RuleSet.load w (r.rulesFor config)).outcome = .ok s.rules
  grammar : ∃ base, IsBase w r config base ∧
    compile (.ofLayer (mergeLayers [base, config.parserOptions.getD []])) = .ok s.grammar
  initial : s.initial = true ↔ r.initialPhase = true ∨ config.initial = some true

/-- The command line names a module and no preset, and the file names a preset. -/
def isShadowed (r : AnalyzeRequest) (config : Config) : Bool :=
  (given? r.preset).isNone && (given? r.grammar).isSome && (given? config.preset).isSome

variable {w : Workspace} {r : AnalyzeRequest} {config : Config}

theorem rules_override (r : AnalyzeRequest) (config : Config) :
    (r.override config).rules = r.rulesFor config := by
  simp only [override, rulesFor]
  cases given? r.releaseRules <;> rfl

theorem isInitial_override (r : AnalyzeRequest) (config : Config) :
    (r.override config).isInitial = true ↔ r.initialPhase = true ∨ config.initial = some true := by
  simp only [override, Config.isInitial]
  cases r.initialPhase <;> simp

theorem isBase_override {base : Layer} (found : IsBase w r config base)
    (shows : r.isShadowed config = false) : Grammar.IsBase w (r.override config) base := by
  cases found with
  | preset named found =>
      refine found.of_preset (given?_given named) ?_
      simp only [override, named, Option.orElse_some]
  | @grammar reference _ unnamed named found =>
      have free : given? config.preset = none := by
        simpa [isShadowed, unnamed, named] using shows
      refine found.of_grammar (given?_given named) ?_ ?_
      · simpa only [override, unnamed, Option.orElse_none] using free
      · simp only [override, named, Option.orElse_some]
  | file unnamed alone found =>
      refine found.congr ?_ ?_ rfl
      · simp only [override, unnamed, Option.orElse_none]
      · simp only [override, alone, Option.orElse_none]

theorem Resolves.prepare {s : Setup} (resolves : r.Resolves w config s)
    (shows : r.isShadowed config = false) : ((r.override config).prepare w).outcome = .ok s := by
  obtain ⟨base, found, compiled⟩ := resolves.grammar
  have loads : (load w (r.override config)).outcome = .ok s.grammar :=
    (load_of_base (isBase_override found shows)).trans compiled
  have initial : (r.override config).isInitial = s.initial :=
    Bool.eq_iff_iff.mpr ((isInitial_override r config).trans resolves.initial.symm)
  rw [Config.prepare_outcome, rules_override, resolves.rules, loads, initial]
  rfl

theorem Resolves.of_base {base : Layer} {g : Grammar} {initial : Bool}
    (found : IsBase w r config base)
    (compiled : compile (.ofLayer (mergeLayers [base, []])) = .ok g)
    (ruled : r.rulesFor config = .null) (single : config.parserOptions = none)
    (phase : initial = true ↔ r.initialPhase = true ∨ config.initial = some true) :
    r.Resolves w config ⟨none, g, initial⟩ where
  rules := by
    rw [ruled]
    rfl
  grammar := ⟨base, found, by rw [single]; exact compiled⟩
  initial := phase

theorem prepare_of_isShadowed (shadowed : r.isShadowed config = true) :
    ((r.override config).prepare w).outcome =
      (({ r with grammar := none }.override config).prepare w).outcome := by
  simp only [isShadowed, Bool.and_eq_true, Option.isNone_iff_eq_none] at shadowed
  obtain ⟨⟨unnamed, _⟩, preset⟩ := shadowed
  obtain ⟨name, named⟩ := Option.isSome_iff_exists.mp preset
  have stays : given? (r.override config).preset = some name := by
    simpa only [override, unnamed, Option.orElse_none] using named
  rw [Config.prepare_outcome, Config.prepare_outcome, ← load_of_preset w stays config.grammar]
  rfl

theorem run_outcome {input text : String} {submissions : List Submission}
    (loaded : (Config.load w (r.configFile.map Path.ofText)).outcome = .ok config)
    (read : r.readSource w input = .ok text) (listed : Submission.readAll text = .ok submissions) :
    (r.run w input).outcome = do
      let s ← ((r.override config).prepare w).outcome
      let analysis ← s.analyze (← submissions.mapM Submission.commit)
      return r.answer analysis.release submissions.length := by
  have analyzed : ((r.override config).analyze w (submissions.mapM Submission.commit)).outcome =
      ((r.override config).prepare w).outcome >>= fun s =>
        (submissions.mapM Submission.commit >>= s.analyze).map Analysis.release := by
    cases submissions.mapM Submission.commit with
    | ok commits => exact Config.analyze_outcome w _ commits
    | error failure =>
        rw [Config.analyze, Traced.outcome_bind]
        rfl
  simp only [run, Traced.outcome_bind, Traced.outcome_ofExcept, loaded, read, ok_bind, listed,
    analyzed, bind_assoc]
  congr 1
  funext s
  cases submissions.mapM Submission.commit with
  | error failure => rfl
  | ok commits =>
      change ((s.analyze commits).map Analysis.release >>= _) = s.analyze commits >>= _
      cases s.analyze commits <;> rfl

end AnalyzeRequest

theorem run_ending {w : Workspace} {args : List String} {input : String} {verbosity : Verbosity}
    {jsonLog : Bool} {r : AnalyzeRequest}
    (asked : Request.ofArgs args = .ok ⟨verbosity, jsonLog, .analyze r⟩) :
    (run w args input).ending = .ofOutcome (r.run w input).outcome := by
  rw [run, asked]
  rfl

end CommandLine

def Sample.twoGrammars : Workspace where
  root := ⟨"/", []⟩
  files := [
    (["commit-analyzer.toml"], { content := .text "preset = \"angular\"\n" }),
    (["g.py"], ⟨.text "", .loaded [("PARSER_OPTS", .data (.ofNamed [
      ("header_pattern", .text "^(\\w*): (.*)$"),
      ("header_correspondence", .list [.text "tag", .text "message"])]))]⟩)]

def Sample.asEslint : CommandLine.AnalyzeRequest :=
  { preset := some "eslint", initialPhase := true }

def Sample.byModule : CommandLine.AnalyzeRequest := { grammar := some "./g.py" }

open Grammar Sample

theorem Config.load_twoGrammars : ∃ config, (load twoGrammars none).outcome = .ok config ∧
    config.preset = some "angular" ∧ config.parserOptions = none ∧ config.rules = .null ∧
    config.initial = some false := by
  have plain : Workspace.hasZero (twoGrammars.root.child fileName) = false := by
    rw [Workspace.hasZero_eq]
    decide +kernel
  have ready : ∃ r, twoGrammars.locate (twoGrammars.root.child fileName) = .ok r ∧
      ∃ cs, r.content.read = .ok cs ∧
        ∃ config, ofFile (twoGrammars.root.child fileName) cs = .ok config ∧
          config.preset = some "angular" ∧ config.parserOptions = none ∧ config.rules = .null ∧
          config.initial = some false := by
    decide +kernel
  obtain ⟨r, located, cs, reads, config, read, kept⟩ := ready
  have found := Workspace.file?_of_locate plain located
  have same : (load twoGrammars none).outcome = ofFile (twoGrammars.root.child fileName) cs :=
    load_of_file found reads
  exact ⟨config, same.trans read, kept⟩

namespace CommandLine

theorem readAll_update : Submission.readAll "Update: a" =
    .ok [⟨.text "Update: a", .text "", false⟩] := by
  rfl

end CommandLine

end ReleaseAdvisor
