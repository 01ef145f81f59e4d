import ReleaseAdvisor.Proofs.Kinds

/-!
Loading a configuration. Nothing is told on the way. What fails is reported, but for a few reasons,
each of which lies in what the configuration says.
-/

namespace ReleaseAdvisor

open Outcome

/-! ### Silence -/

namespace Event

def told (events : List Event) : List (String × List Value) :=
  (events.filter fun e => e.level == .info).map fun e => (e.form, e.arguments)

theorem told_append (first second : List Event) :
    told (first ++ second) = told first ++ told second := by
  rw [told, List.filter_append, List.map_append]
  rfl

theorem told_of_debug {events : List Event} (debug : ∀ e ∈ events, e.level = .debug) :
    told events = [] := by
  have none : events.filter (fun e => e.level == .info) = [] := by
    rw [List.filter_eq_nil_iff]
    intro e listed
    rw [debug e listed]
    decide
  rw [told, none]
  rfl

end Event

def Traced.IsSilent {α : Type} (t : Traced α) : Prop := Event.told t.events = []

namespace Traced

variable {α β : Type}

theorem isSilent_pure (value : α) : (pure value : Traced α).IsSilent := rfl

theorem isSilent_ofExcept (outcome : Except Failure α) : (ofExcept outcome).IsSilent := rfl

theorem isSilent_report (r : Report) : (report r : Traced α).IsSilent := rfl

theorem isSilent_say {events : List Event} (debug : ∀ e ∈ events, e.level = .debug) :
    (say events).IsSilent := Event.told_of_debug debug

theorem IsSilent.bind {first : Traced α} {next : α → Traced β} (head : first.IsSilent)
    (tail : ∀ value, first.outcome = .ok value → (next value).IsSilent) :
    (first >>= next).IsSilent := by
  change Event.told (first.andThen next).events = []
  unfold andThen
  cases done : first.outcome with
  | error failure => exact head
  | ok value =>
      simp only
      rw [Event.told_append, head, tail value done]
      rfl

end Traced

open Traced

namespace Reference

theorem attributesByPath_isSilent (w : Workspace) (role : Option Role) (reference : String) :
    (attributesByPath w role reference).IsSilent := by
  refine .bind (isSilent_ofExcept _) fun found _ => ?_
  cases found with
  | none => exact isSilent_report _
  | some place =>
      exact .bind (isSilent_say (by simp [Event.level])) fun _ _ => isSilent_ofExcept _

theorem attributes_isSilent (w : Workspace) (role : Option Role) (reference : String) :
    (attributes w role reference).IsSilent := by
  unfold attributes
  split
  · exact isSilent_pure _
  · split
    · exact attributesByPath_isSilent w role reference
    · exact isSilent_ofExcept _

theorem load_isSilent (w : Workspace) (reference : String) : (load w reference).IsSilent := by
  unfold load
  dsimp only
  split
  · refine .bind (isSilent_ofExcept _) fun found _ => ?_
    cases found with
    | none => exact isSilent_report _
    | some resource =>
        refine .bind (isSilent_say (by simp [Event.level])) fun _ _ => ?_
        exact .bind (isSilent_ofExcept _) fun _ _ => isSilent_pure _
  · exact .bind (attributes_isSilent w none reference) fun _ _ => isSilent_pure _

end Reference

theorem RuleSet.load_isSilent (w : Workspace) (given : Value) : (load w given).IsSilent := by
  unfold load
  split
  · exact isSilent_pure _
  · refine .bind (Reference.load_isSilent w _) fun _ _ => ?_
    refine .bind (isSilent_ofExcept _) fun _ _ => ?_
    exact .bind (isSilent_say (by simp [Event.level])) fun _ _ => isSilent_pure _
  · exact .bind (isSilent_ofExcept _) fun _ _ => isSilent_pure _

namespace Grammar

theorem loadBase_isSilent (w : Workspace) (config : Config) : (loadBase w config).IsSilent := by
  have module (role : Role) (reference : String) : (loadModule w role reference).IsSilent :=
    .bind (Reference.attributes_isSilent w _ _) fun _ _ => isSilent_ofExcept _
  unfold loadBase
  split
  · split
    · exact isSilent_pure _
    · exact module _ _
  · exact module _ _
  · exact isSilent_pure _

theorem loadOptions_isSilent (w : Workspace) (config : Config) :
    (loadOptions w config).IsSilent := by
  refine .bind (loadBase_isSilent w config) fun _ _ => ?_
  exact .bind (isSilent_say (by simp [Event.level])) fun _ _ => isSilent_pure _

end Grammar

theorem Config.prepare_isSilent (w : Workspace) (config : Config) :
    (config.prepare w).IsSilent := by
  refine .bind (RuleSet.load_isSilent w _) fun _ _ => ?_
  refine .bind (Grammar.loadOptions_isSilent w config) fun _ _ => ?_
  exact .bind (isSilent_ofExcept _) fun _ _ => isSilent_pure _

/-! ### Failures -/

namespace Traced

variable {α β : Type}

theorem outcome_bind (first : Traced α) (next : α → Traced β) :
    (first >>= next).outcome = first.outcome >>= fun value => (next value).outcome := by
  change (first.andThen next).outcome = _
  unfold andThen
  cases first.outcome <;> rfl

theorem outcome_ofExcept (outcome : Except Failure α) : (ofExcept outcome).outcome = outcome := rfl

theorem failsOnly_ofExcept {p : Failure → Prop} {outcome : Except Failure α}
    (fails : FailsOnly p outcome) : FailsOnly p (ofExcept outcome).outcome := fails

theorem failsOnly_bind {p : Failure → Prop} {first : Traced α} {next : α → Traced β}
    (head : FailsOnly p first.outcome)
    (tail : ∀ value, first.outcome = .ok value → FailsOnly p (next value).outcome) :
    FailsOnly p (first >>= next).outcome := by
  rw [outcome_bind]
  exact head.bind tail

end Traced

namespace Failure

inductive IsLimit : Failure → Prop
  | read (digits : Nat) : IsLimit (.refusal (.hugeNumber digits))
  | written : IsLimit (.refusal .unwritableNumber)
  | counted : IsLimit (.misuse .range)

end Failure

def Regex.Clashes (source : String) : Prop :=
  ∃ fault, Regex.read source = .error fault ∧ fault.cause = .classFlagsClash

inductive Regex.MayFail (sources : List String) : Failure → Prop
  | report (r : Report) : MayFail sources (.report r)
  | limit {failure : Failure} (limit : failure.IsLimit) : MayFail sources failure
  | clash {source : String} (listed : source ∈ sources) (clashes : Regex.Clashes source) :
      MayFail sources (.refusal .classFlagsClash)

theorem Regex.MayFail.mono {sources more : List String} {failure : Failure}
    (fails : MayFail sources failure) (within : sources ⊆ more) : MayFail more failure := by
  cases fails with
  | report r => exact .report r
  | limit limit => exact .limit limit
  | clash listed clashes => exact .clash (within listed) clashes

theorem Grammar.failureOf_mayFail {source : String} {fault : Pattern.Fault}
    (wrong : Regex.read source = .error fault) (r : Report) :
    Regex.MayFail [source] (failureOf fault r) := by
  unfold failureOf
  split
  · exact .limit .counted
  · exact .limit (.read _)
  · exact .clash (List.mem_singleton.mpr rfl) ⟨fault, wrong, by assumption⟩
  · exact .report r

/-! ### References -/

def Toml.Clashes (cs : List Char) (clash : Toml.Clash) : Prop :=
  Toml.Document.read cs = .error (.clash clash) ∨
    ∃ document, Toml.Document.read cs = .ok document ∧ document.toNamed = .error clash

inductive Workspace.Refuses (w : Workspace) (paths : List Path) : Failure → Prop
  | tooLong {p : Path} (among : p ∈ paths) (long : w.locate p = .error .nameTooLong) :
      Refuses w paths (.misuse .system)
  | closed {p : Path} (among : p ∈ paths) (closed : w.locate p = .error .denied) :
      Refuses w paths (.misuse .system)

theorem Workspace.Refuses.mono {w : Workspace} {paths more : List Path} {failure : Failure}
    (refuses : w.Refuses paths failure) (within : paths ⊆ more) : w.Refuses more failure := by
  cases refuses with
  | tooLong among long => exact .tooLong (within among) long
  | closed among closed => exact .closed (within among) closed

theorem Workspace.hasZero_eq (p : Path) :
    hasZero p = p.parts.any fun part => decide (Char.ofNat 0 ∈ part.toList) := by
  simp only [hasZero, String.contains_char_eq]

theorem Workspace.file?_of_locate {w : Workspace} {p : Path} {r : Resource}
    (plain : hasZero p = false) (found : w.locate p = .ok r) : w.file? p = .ok (some r) := by
  simp [file?, plain, found]

theorem Import.attributes_eq_ok {i : Import} {attributes : Attributes} :
    i.attributes = .ok attributes ↔ i = .loaded attributes := by
  cases i with
  | loaded other => simp [Import.attributes]
  | failed exception => simp [Import.attributes]

namespace Reference

/-- No module can be imported by the name, so that the path is tried. -/
def IsNotImportable (w : Workspace) (reference : String) : Prop :=
  ∃ exception, w.imports reference = .failed exception ∧ exception.isCaught = true

/-- The attributes of the module that a reference stands for: of one that is imported by that name,
or else of the first module that the path leads to. -/
inductive IsModule (w : Workspace) (reference : String) : Attributes → Prop
  | byName {attributes : Attributes} (loads : w.imports reference = .loaded attributes) :
      IsModule w reference attributes
  | byPath {paths : List Path} {p : Path} {r : Resource} {attributes : Attributes}
      (absent : IsNotImportable w reference)
      (tried : candidates (path w reference) = .ok paths)
      (found : firstModule? w paths = .ok (some (p, r))) (loads : r.imported = .loaded attributes) :
      IsModule w reference attributes

/-- A way in which asking for a module may fail without a report: the path is a root, which has no
name, the system refuses one of the paths, or what is imported raises an exception. -/
inductive ModuleFails (w : Workspace) (reference : String) : Failure → Prop
  | nameless (absent : IsNotImportable w reference) (root : (path w reference).name = "") :
      ModuleFails w reference (.refusal (.emptyName (path w reference).text))
  | refused {paths : List Path} {failure : Failure} (absent : IsNotImportable w reference)
      (tried : candidates (path w reference) = .ok paths) (refuses : w.Refuses paths failure) :
      ModuleFails w reference failure
  | byName {exception : Exception} (raises : w.imports reference = .failed exception)
      (uncaught : exception.isCaught = false) :
      ModuleFails w reference (.misuse (.raised exception))
  | byPath {paths : List Path} {p : Path} {r : Resource} {exception : Exception}
      (absent : IsNotImportable w reference)
      (tried : candidates (path w reference) = .ok paths)
      (found : firstModule? w paths = .ok (some (p, r)))
      (raises : r.imported = .failed exception) :
      ModuleFails w reference (.misuse (.raised exception))

/-- A way in which loading what a reference stands for may fail. -/
inductive MayFail (w : Workspace) (reference : String) : Failure → Prop
  | report (r : Report) : MayFail w reference (.report r)
  | module {failure : Failure} (other : isData (path w reference) = false)
      (fails : ModuleFails w reference failure) : MayFail w reference failure
  | refused {failure : Failure} (refuses : w.Refuses [path w reference] failure) :
      MayFail w reference failure
  | unreadable {r : Resource} {failure : Failure}
      (found : w.file? (path w reference) = .ok (some r))
      (fails : r.content.read = .error failure) : MayFail w reference failure
  | limit {failure : Failure} (limit : failure.IsLimit) : MayFail w reference failure
  | clash {r : Resource} {cs : List Char} {clash : Toml.Clash}
      (found : w.file? (path w reference) = .ok (some r)) (reads : r.content.read = .ok cs)
      (clashes : Toml.Clashes cs clash) : MayFail w reference (.misuse (.clash clash))

variable {w : Workspace}

theorem file?_failsOnly (p : Path) : FailsOnly (w.Refuses [p]) (w.file? p) := by
  unfold Workspace.file?
  split
  · exact .ok _
  · split
    · exact .ok _
    · rename_i long
      exact .error (.tooLong (List.mem_singleton.mpr rfl) long)
    · rename_i closed
      exact .error (.closed (List.mem_singleton.mpr rfl) closed)
    · exact .ok _

theorem firstModule?_failsOnly (paths : List Path) :
    FailsOnly (w.Refuses paths) (firstModule? w paths) := by
  induction paths with
  | nil => exact .ok _
  | cons p paths ih =>
      have first : FailsOnly (w.Refuses (p :: paths)) (w.file? p) :=
        (file?_failsOnly p).mono fun _ refuses =>
          refuses.mono (List.cons_subset_cons p (List.nil_subset paths))
      have later : FailsOnly (w.Refuses (p :: paths)) (firstModule? w paths) :=
        ih.mono fun _ refuses => refuses.mono (List.subset_cons_self p paths)
      refine .bind first fun found _ => ?_
      cases found with
      | none => exact later
      | some r =>
          dsimp only
          split
          · exact .ok _
          · exact later

theorem candidates_failsOnly (reference : String) :
    FailsOnly (fun failure => (path w reference).name = "" ∧
      failure = .refusal (.emptyName (path w reference).text)) (candidates (path w reference)) := by
  unfold candidates
  split
  · exact .ok _
  · split
    · rename_i root
      exact .error ⟨String.isEmpty_iff.mp root, rfl⟩
    · exact .ok _

theorem attributesByPath_failsOnly {reference : String} (absent : IsNotImportable w reference)
    (role : Option Role) :
    FailsOnly (fun failure => (∃ r, failure = .report r) ∨ ModuleFails w reference failure)
      (attributesByPath w role reference).outcome := by
  refine Traced.failsOnly_bind (.bind ?_ fun paths tried => ?_) fun found looked => ?_
  · refine (candidates_failsOnly reference).mono fun failure fails => ?_
    obtain ⟨root, rfl⟩ := fails
    exact .inr (.nameless absent root)
  · exact (firstModule?_failsOnly paths).mono fun _ refuses => .inr (.refused absent tried refuses)
  · cases found with
    | none => exact .error (.inl ⟨_, rfl⟩)
    | some place =>
        obtain ⟨paths, tried, first⟩ := bind_eq_ok.mp looked
        refine Traced.failsOnly_bind (.ok _) fun _ _ => Traced.failsOnly_ofExcept ?_
        cases ran : place.2.imported with
        | loaded attributes => exact .ok _
        | failed exception => exact .error (.inr (.byPath absent tried first ran))

theorem attributes_failsOnly (role : Option Role) (reference : String) :
    FailsOnly (fun failure => (∃ r, failure = .report r) ∨ ModuleFails w reference failure)
      (attributes w role reference).outcome := by
  unfold attributes
  split
  · exact .ok _
  · rename_i exception failed
    split
    · rename_i caught
      exact attributesByPath_failsOnly ⟨exception, failed, caught⟩ role
    · rename_i uncaught
      rw [Bool.not_eq_true] at uncaught
      exact .error (.inr (.byName failed uncaught))

theorem IsModule.attributes {reference : String} {attributes : Attributes}
    (found : IsModule w reference attributes) (role : Option Role) :
    (Reference.attributes w role reference).outcome = .ok attributes := by
  unfold Reference.attributes
  cases found with
  | byName loads =>
      rw [loads]
      rfl
  | byPath absent tried found loads =>
      obtain ⟨exception, failed, caught⟩ := absent
      simp only [failed, caught, if_true, attributesByPath, Traced.outcome_bind,
        Traced.outcome_ofExcept, tried, ok_bind, found, loads]
      rfl

theorem IsModule.of_file {reference : String} {r : Resource} {attributes : Attributes}
    (absent : IsNotImportable w reference) (ending : (path w reference).suffix = moduleEnding)
    (found : w.file? (path w reference) = .ok (some r)) (loads : r.imported = .loaded attributes) :
    IsModule w reference attributes := by
  have only : candidates (path w reference) = .ok [path w reference] := by
    simp [candidates, ending]
  have first : firstModule? w [path w reference] = .ok (some (path w reference, r)) := by
    simp only [firstModule?, found, ok_bind, ending, beq_self_eq_true, if_true]
    rfl
  exact .byPath absent only first loads

theorem readData_failsOnly (reference : String) {r : Resource} {cs : List Char}
    (found : w.file? (path w reference) = .ok (some r)) (reads : r.content.read = .ok cs) :
    FailsOnly (MayFail w reference) (readData (path w reference) cs) := by
  unfold readData
  split
  · split
    · exact .ok _
    · exact .error (.limit (.read _))
    · exact .error (.report _)
  · split
    · exact .error (.report _)
    · rename_i clash read
      exact .error (.clash found reads (.inl read))
    · rename_i document read
      cases named : document.toNamed with
      | ok entries => exact .ok _
      | error clash => exact .error (.clash found reads (.inr ⟨document, read, named⟩))

theorem load_of_read {reference : String} {r : Resource} {cs : List Char}
    (data : isData (path w reference) = true)
    (found : w.file? (path w reference) = .ok (some r)) (reads : r.content.read = .ok cs) :
    (load w reference).outcome = (readData (path w reference) cs).map .data := by
  unfold load
  simp only [data, if_true, Traced.outcome_bind, Traced.outcome_ofExcept, found, ok_bind, reads]
  cases readData (path w reference) cs with
  | ok value => rfl
  | error failure => rfl

theorem load_of_clashes {reference : String} {r : Resource} {cs : List Char} {clash : Toml.Clash}
    (ending : (path w reference).suffix = ".toml")
    (found : w.file? (path w reference) = .ok (some r)) (reads : r.content.read = .ok cs)
    (clashes : Toml.Clashes cs clash) :
    (load w reference).outcome = .error (.misuse (.clash clash)) := by
  have data : isData (path w reference) = true := by simp [isData, ending]
  have other : ((path w reference).suffix == ".json") = false := by
    rw [ending]
    decide
  rw [load_of_read data found reads, readData, other]
  -- Either the reader stops at the clash, or it shows when the tables are made one value.
  rcases clashes with read | ⟨document, read, named⟩
  · simp only [Bool.false_eq_true, if_false, read]
    rfl
  · simp only [Bool.false_eq_true, if_false, read, named]
    rfl

theorem load_failsOnly (reference : String) :
    FailsOnly (MayFail w reference) (load w reference).outcome := by
  unfold load
  dsimp only
  split
  · refine Traced.failsOnly_bind ?_ fun found there => ?_
    · exact Traced.failsOnly_ofExcept ((file?_failsOnly _).mono fun _ refuses => .refused refuses)
    · cases found with
      | none => exact .error (.report _)
      | some r =>
          rw [Traced.outcome_ofExcept] at there
          refine Traced.failsOnly_bind (.ok _) fun _ _ => ?_
          refine Traced.failsOnly_bind (Traced.failsOnly_ofExcept ?_) fun _ _ => .ok _
          refine .bind (fun failure fails => .unreadable there fails) fun cs reads => ?_
          exact readData_failsOnly reference there reads
  · rename_i other
    rw [Bool.not_eq_true] at other
    refine Traced.failsOnly_bind ?_ fun _ _ => .ok _
    refine (attributes_failsOnly none reference).mono fun failure reason => ?_
    rcases reason with ⟨r, rfl⟩ | fails
    · exact .report r
    · exact .module other fails

end Reference

/-! ### Rules -/

def Matcher.patternText? : Value → Option String
  | .text s => (betweenSlashes? s.toList).map String.ofList
  | _ => none

theorem Matcher.ofValue_failsOnly (value : Value) :
    FailsOnly (Regex.MayFail (patternText? value).toList) (ofValue value) := by
  unfold ofValue
  split
  · exact .ok _
  · rename_i s
    split
    · rename_i inner cut
      dsimp only
      split
      · exact .ok _
      · rename_i fault wrong
        have given : patternText? (.text s) = some (String.ofList inner) := by
          rw [patternText?, cut]
          rfl
        rw [given]
        exact .error (Grammar.failureOf_mayFail wrong _)
    · exact .ok _
  · exact .ok _

def Rule.patternTexts : Value → List String
  | .mapping entries => entries.filterMap fun e => Matcher.patternText? e.2
  | _ => []

theorem Rule.rulingOf_failsOnly (sources : List String) (value : Value) :
    FailsOnly (Regex.MayFail sources) (rulingOf value) := by
  unfold rulingOf
  split
  · exact .ok _
  · exact .ok _
  · split
    · exact .ok _
    · exact .error (.report _)
  · split
    · exact .error (.report _)
    · exact .error (.limit .written)

theorem Rule.ofValue_failsOnly (value : Value) :
    FailsOnly (Regex.MayFail (patternTexts value)) (ofValue value) := by
  unfold ofValue
  split
  · rename_i entries
    split
    · exact .error (.report _)
    · refine .bind (.mapM _ fun e listed => ?_) fun _ _ => ?_
      · refine .bind ((Matcher.ofValue_failsOnly e.2).mono fun _ fails => ?_) fun _ _ => .ok _
        refine fails.mono fun source given => ?_
        exact List.mem_filterMap.mpr ⟨e, List.mem_of_mem_filter listed, by simpa using given⟩
      · exact .bind (rulingOf_failsOnly _ _) fun _ _ => .ok _
  · exact .error (.report _)

namespace RuleSet

def patternTexts : Value → List String
  | .list items => items.flatMap Rule.patternTexts
  | _ => []

theorem ofValue_failsOnly (value : Value) :
    FailsOnly (Regex.MayFail (patternTexts value)) (ofValue value) := by
  unfold ofValue
  split
  · refine .mapM _ fun item listed => (Rule.ofValue_failsOnly item).mono fun _ fails => ?_
    exact fails.mono fun source given => List.mem_flatMap.mpr ⟨item, listed, given⟩
  · exact .error (.report _)

inductive IsGiven (w : Workspace) : Value → Value → Prop
  | own (rules : Value) : IsGiven w rules rules
  | referred {reference : String} {loaded : Reference.Loaded}
      (found : (Reference.load w reference).outcome = .ok loaded) :
      IsGiven w (.text reference) (within loaded)

/-- A way in which loading a configuration's rules may fail. -/
inductive MayFail (w : Workspace) : Value → Failure → Prop
  | reference {reference : String} {failure : Failure}
      (fails : Reference.MayFail w reference failure) : MayFail w (.text reference) failure
  | rules {given rules : Value} {failure : Failure} (stated : IsGiven w given rules)
      (fails : Regex.MayFail (patternTexts rules) failure) : MayFail w given failure

theorem load_failsOnly (w : Workspace) (given : Value) :
    FailsOnly (MayFail w given) (load w given).outcome := by
  unfold load
  split
  · exact .ok _
  · rename_i reference
    refine Traced.failsOnly_bind ?_ fun loaded found => ?_
    · exact (Reference.load_failsOnly reference).mono fun _ fails => .reference fails
    · have rules : FailsOnly (MayFail w (.text reference)) (ofValue (within loaded)) :=
        (ofValue_failsOnly _).mono fun _ fails => .rules (.referred found) fails
      exact Traced.failsOnly_bind (Traced.failsOnly_ofExcept rules) fun _ _ => .ok _
  · have rules : FailsOnly (MayFail w given) (ofValue given) :=
      (ofValue_failsOnly _).mono fun _ fails => .rules (.own given) fails
    exact Traced.failsOnly_bind (Traced.failsOnly_ofExcept rules) fun _ _ => .ok _

end RuleSet

/-! ### Grammars -/

namespace Grammar

def module? (config : Config) : Option (Role × String) :=
  match given? config.preset, given? config.grammar with
  | some name, _ => if (preset? name).isSome then none else some (.preset name, presetModule name)
  | none, some reference => some (.config reference, reference)
  | none, none => none

theorem loadBase_cases (w : Workspace) (config : Config) :
    (∃ role reference, module? config = some (role, reference) ∧
      loadBase w config = loadModule w role reference) ∨
    ∃ layer : Layer, layer.IsDocumented ∧ loadBase w config = pure layer := by
  unfold module? loadBase
  cases given? config.preset with
  | some name =>
      dsimp only
      cases known : preset? name with
      | some layer => exact .inr ⟨layer, isDocumented_of_preset? known, rfl⟩
      | none => exact .inl ⟨_, _, rfl, rfl⟩
  | none =>
      cases given? config.grammar with
      | some reference => exact .inl ⟨_, _, rfl, rfl⟩
      | none =>
          refine .inr ⟨_, ?_, rfl⟩
          split
          · exact isDocumented_angular
          · exact isDocumented_nil

def Options.patternTexts (options : Options) : List String :=
  [options.headerPattern, options.breakingHeaderPattern, options.mergePattern,
    options.revertPattern, options.fieldPattern].filterMap fun value => match value with
      | .text source => some source
      | _ => none

theorem compilePattern_failsOnly (option : String) {value : Value} (kind : IsPattern value)
    {sources : List String} (given : ∀ source, value = .text source → source ∈ sources) :
    FailsOnly (Regex.MayFail sources) (compilePattern option value) := by
  cases kind with
  | unset => exact .ok _
  | ready p => exact .ok _
  | written source =>
      unfold compilePattern
      dsimp only
      split
      · exact .ok _
      · rename_i fault wrong
        refine .error ((failureOf_mayFail wrong _).mono fun other listed => ?_)
        rw [List.mem_singleton.mp listed]
        exact given source rfl

theorem compileNote_returns (keywords : List String) :
    ∃ pattern, compileNote (texts keywords) = .ok pattern := by
  unfold compileNote
  split
  · obtain ⟨words, read⟩ : ∃ words, (keywords.map Value.text).mapM textOf = .ok words := by
      refine mapM_returns fun item listed => ?_
      obtain ⟨word, _, rfl⟩ := List.mem_map.mp listed
      exact ⟨word, rfl⟩
    exact ⟨_, bind_eq_ok.mpr ⟨_, rfl, bind_eq_ok.mpr ⟨words, read, rfl⟩⟩⟩
  · exact ⟨none, rfl⟩

theorem compile_failsOnly {options : Options} (typed : options.IsTyped) :
    FailsOnly (Regex.MayFail options.patternTexts) (compile options) := by
  have given : ∀ value ∈ [options.headerPattern, options.breakingHeaderPattern,
      options.mergePattern, options.revertPattern, options.fieldPattern],
      ∀ source, value = .text source → source ∈ options.patternTexts := by
    intro value listed source text
    exact List.mem_filterMap.mpr ⟨value, listed, by rw [text]⟩
  have pattern (option : String) {value : Value} (kind : IsPattern value)
      (listed : value ∈ [options.headerPattern, options.breakingHeaderPattern,
        options.mergePattern, options.revertPattern, options.fieldPattern]) :
      FailsOnly (Regex.MayFail options.patternTexts) (compilePattern option value) :=
    compilePattern_failsOnly option kind (given value listed)
  obtain ⟨keywords, texts⟩ := typed.noteKeywords
  obtain ⟨note, ready⟩ := compileNote_returns keywords
  unfold compile
  refine .bind (pattern _ typed.headerPattern (by simp)) fun _ _ => ?_
  refine .bind (pattern _ typed.breakingHeaderPattern (by simp)) fun _ _ => ?_
  refine .bind (pattern _ typed.mergePattern (by simp)) fun _ _ => ?_
  refine .bind (pattern _ typed.revertPattern (by simp)) fun _ _ => ?_
  refine .bind (pattern _ typed.fieldPattern (by simp)) fun field _ => ?_
  rw [texts, ready]
  split
  · exact .error (.report _)
  · exact .ok _

def load (w : Workspace) (config : Config) : Traced Grammar := do
  let options ← loadOptions w config
  Traced.ofExcept (compile options)

/-- A way in which loading a configuration's grammar may fail. -/
inductive MayFail (w : Workspace) (config : Config) : Failure → Prop
  | report (r : Report) : MayFail w config (.report r)
  | module {role : Role} {reference : String} {failure : Failure}
      (asked : module? config = some (role, reference))
      (fails : Reference.ModuleFails w reference failure) : MayFail w config failure
  | call {role : Role} {reference : String} {attributes : Attributes} {exception : Exception}
      (asked : module? config = some (role, reference))
      (loaded : (Reference.attributes w (some role) reference).outcome = .ok attributes)
      (raises : givenOptions attributes = .error exception) :
      MayFail w config (.misuse (.raised exception))
  | pattern {options : Options} {failure : Failure}
      (loaded : (loadOptions w config).outcome = .ok options)
      (fails : Regex.MayFail options.patternTexts failure) : MayFail w config failure

end Grammar

/-- The options that a configuration gives its grammar have the kinds they are meant to have: its
own ones and those of the module that it asks for. -/
structure Config.IsDocumented (w : Workspace) (config : Config) : Prop where
  own : Grammar.Layer.IsDocumented (config.parserOptions.getD [])
  module : ∀ role reference layer, Grammar.module? config = some (role, reference) →
    (Grammar.loadModule w role reference).outcome = .ok layer → Grammar.Layer.IsDocumented layer

namespace Grammar

variable {w : Workspace} {config : Config}

theorem isTyped_of_loadOptions (documented : config.IsDocumented w) {options : Options}
    (loaded : (loadOptions w config).outcome = .ok options) : options.IsTyped := by
  rw [loadOptions, Traced.outcome_bind] at loaded
  obtain ⟨base, first, loaded⟩ := bind_eq_ok.mp loaded
  cases loaded
  have known : base.IsDocumented := by
    rcases loadBase_cases w config with ⟨role, reference, asked, same⟩ | ⟨layer, known, same⟩
    · rw [same] at first
      exact documented.module role reference base asked first
    · rw [same] at first
      cases first
      exact known
  refine Options.isTyped_ofLayer (isDocumented_mergeLayers fun layer listed => ?_)
  simp only [List.mem_cons, List.not_mem_nil, or_false] at listed
  rcases listed with rfl | rfl
  · exact known
  · exact documented.own

theorem isTyped_of_load (documented : config.IsDocumented w) {g : Grammar}
    (ready : (load w config).outcome = .ok g) : g.IsTyped := by
  rw [load, Traced.outcome_bind] at ready
  obtain ⟨options, loaded, compiled⟩ := bind_eq_ok.mp ready
  have typed := isTyped_of_loadOptions documented loaded
  exact isTyped_of_compile compiled typed.headerNames typed.mergeNames typed.revertNames
    typed.comment

theorem loadModule_failsOnly {role : Role} {reference : String}
    (asked : module? config = some (role, reference)) :
    FailsOnly (MayFail w config) (loadModule w role reference).outcome := by
  refine Traced.failsOnly_bind ?_ fun attributes loaded => Traced.failsOnly_ofExcept ?_
  · refine (Reference.attributes_failsOnly _ reference).mono fun failure reason => ?_
    rcases reason with ⟨r, rfl⟩ | fails
    · exact .report r
    · exact .module asked fails
  · unfold moduleLayer
    split
    · exact .ok _
    · exact .error (.report _)
    · rename_i exception raises
      exact .error (.call asked loaded raises)

theorem load_failsOnly (documented : config.IsDocumented w) :
    FailsOnly (MayFail w config) (load w config).outcome := by
  have options : FailsOnly (MayFail w config) (loadOptions w config).outcome := by
    refine Traced.failsOnly_bind ?_ fun _ _ => Traced.failsOnly_bind (.ok _) fun _ _ => .ok _
    rcases loadBase_cases w config with ⟨role, reference, asked, same⟩ | ⟨layer, _, same⟩
    · rw [same]
      exact loadModule_failsOnly asked
    · rw [same]
      exact .ok _
  refine Traced.failsOnly_bind options fun options loaded => Traced.failsOnly_ofExcept ?_
  exact (compile_failsOnly (isTyped_of_loadOptions documented loaded)).mono fun _ fails =>
    .pattern loaded fails

end Grammar

end ReleaseAdvisor
