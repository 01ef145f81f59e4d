import Mathlib.Data.List.Induction
import ReleaseAdvisor.Config
import ReleaseAdvisor.Proofs.Outcome

/-!
Options as a mapping writes them. The first entry that names no option, or gives one a value of a
wrong kind, is what is reported, whatever comes after it. Without one every option holds what the
last entry for it says, in whatever spelling, and its default if there is none.
-/

namespace ReleaseAdvisor

namespace Config

open Grammar Outcome

inductive Setting where
  | preset
  | grammar
  | initial
  | parserOptions
  | rules
  deriving DecidableEq, Repr

namespace Setting

def key : Setting → String
  | .preset => "preset"
  | .grammar => "config"
  | .initial => "initial_phase"
  | .parserOptions => "parser_opts"
  | .rules => "release_rules"

def kind? : Setting → Option String
  | .preset => some "str"
  | .grammar => some "str"
  | .initial => some "bool"
  | .parserOptions => some "Mapping"
  | .rules => none

def default : Setting → Value
  | .initial => .bool false
  | _ => .null

/-- The option may have the value: it is null, which every option may have, or of the option's
kind. -/
inductive Admits : Setting → Value → Prop
  | null (s : Setting) : Admits s .null
  | preset (name : String) : Admits .preset (.text name)
  | grammar (reference : String) : Admits .grammar (.text reference)
  | initial (b : Bool) : Admits .initial (.bool b)
  | parserOptions (entries : Entries) : Admits .parserOptions (.mapping entries)
  | rules (value : Value) : Admits .rules value

end Setting

def held (config : Config) : Setting → Value
  | .preset => (config.preset.map .text).getD .null
  | .grammar => (config.grammar.map .text).getD .null
  | .initial => (config.initial.map .bool).getD .null
  | .parserOptions => (config.parserMapping.map .mapping).getD .null
  | .rules => config.rules

def IsSound (e : String × Value) : Prop :=
  ∃ s : Setting, normalizeKey e.1 = s.key ∧ s.Admits e.2

/-- What is wrong with an entry: its key names no option, which is reported with the key as it is
written, or the value is of a wrong kind, which is reported with the normalized key. -/
inductive IsFaulty (source : String) : String × Value → Code → String → Report → Prop
  | unknown {written : String} {value : Value}
      (unknown : ∀ s : Setting, normalizeKey written ≠ s.key) :
      IsFaulty source (written, value) .configInvalidKey
        ("Unknown key '" ++ written ++ "' in " ++ source)
        (.unknownKey written source (Text.closest? Report.validKeys (normalizeKey written)))
  | kind {written : String} {value : Value} {s : Setting} {kind : String}
      (named : normalizeKey written = s.key) (asked : s.kind? = some kind)
      (wrong : ¬ s.Admits value) :
      IsFaulty source (written, value) .configInvalid
        ("'" ++ s.key ++ "' must be " ++ kind ++ ", got " ++ value.kindName)
        (.wrongKind s.key kind value.kindName source)

def IsReported (source : String) (e : String × Value) (report : Report) : Prop :=
  IsFaulty source e report.code report.message report

/-- What entries say last of an option: its default if none of them is for it. -/
inductive SayLast (entries : List (String × Value)) (s : Setting) : Value → Prop
  | nothing (missing : ∀ e ∈ entries, normalizeKey e.1 ≠ s.key) : SayLast entries s s.default
  | entry {before after : List (String × Value)} {written : String} {value : Value}
      (split : entries = before ++ (written, value) :: after)
      (named : normalizeKey written = s.key)
      (later : ∀ e ∈ after, normalizeKey e.1 ≠ s.key) : SayLast entries s value

/-- The entry gives an option its value and leaves everything else as it is. -/
structure Sets (config : Config) (e : String × Value) (s : Setting) (next : Config) : Prop where
  named : normalizeKey e.1 = s.key
  path : next.path = config.path
  own : next.held s = e.2
  others : ∀ other, other ≠ s → next.held other = config.held other

variable {source : String} {config next : Config} {e : String × Value}

/-! ### One entry -/

theorem Setting.key_injective : Function.Injective Setting.key := by
  intro s other same
  cases s <;> cases other <;> first | rfl | exact absurd same (by decide)

theorem Setting.admits_of_kind?_eq_none {s : Setting} (untyped : s.kind? = none) (value : Value) :
    s.Admits value := by
  cases s with
  | rules => exact .rules value
  | preset | grammar | initial | parserOptions => cases untyped

theorem isSound_or_isReported (source : String) (e : String × Value) :
    IsSound e ∨ ∃ report : Report, IsReported source e report := by
  obtain ⟨written, value⟩ := e
  by_cases known : ∃ s : Setting, normalizeKey written = s.key
  · obtain ⟨s, named⟩ := known
    by_cases right : s.Admits value
    · exact .inl ⟨s, named, right⟩
    · cases asked : s.kind? with
      | none => exact absurd (s.admits_of_kind?_eq_none asked value) right
      | some kind =>
          exact .inr ⟨.wrongKind s.key kind value.kindName source, .kind named asked right⟩
  · exact .inr ⟨.unknownKey written source (Text.closest? Report.validKeys (normalizeKey written)),
      .unknown (not_exists.mp known)⟩

theorem set_of_admits (source : String) (config : Config) {s : Setting}
    (named : normalizeKey e.1 = s.key) (right : s.Admits e.2) :
    ∃ next, set source config e.1 e.2 = .ok next ∧ Sets config e s next := by
  obtain ⟨written, value⟩ := e
  change normalizeKey written = s.key at named
  unfold set
  simp only [named]
  cases right with
  | null =>
      cases s <;> refine ⟨_, rfl, named, rfl, rfl, fun other different => ?_⟩ <;>
        cases other <;> first | rfl | exact absurd rfl different
  | preset | grammar | initial | parserOptions | rules =>
      refine ⟨_, rfl, named, rfl, rfl, fun other different => ?_⟩
      cases other <;> first | rfl | exact absurd rfl different

theorem set_of_unknown (source : String) (config : Config) {written : String} (value : Value)
    (unknown : ∀ s : Setting, normalizeKey written ≠ s.key) :
    set source config written value = .error (.report
      (.unknownKey written source (Text.closest? Report.validKeys (normalizeKey written)))) := by
  unfold set
  split
  case h_1 named => exact absurd named (unknown .preset)
  case h_2 named => exact absurd named (unknown .grammar)
  case h_3 named => exact absurd named (unknown .initial)
  case h_4 named => exact absurd named (unknown .parserOptions)
  case h_5 named => exact absurd named (unknown .rules)
  case h_6 => rfl

theorem set_of_not_admits (source : String) (config : Config) {written kind : String}
    {value : Value} {s : Setting} (named : normalizeKey written = s.key)
    (asked : s.kind? = some kind) (wrong : ¬ s.Admits value) :
    set source config written value =
      .error (.report (.wrongKind s.key kind value.kindName source)) := by
  unfold set
  rw [named]
  cases s <;> cases asked <;> cases value <;> first | rfl | exact absurd (by constructor) wrong

theorem set_of_isReported {report : Report} (reported : IsReported source e report)
    (config : Config) : set source config e.1 e.2 = .error (.report report) := by
  unfold IsReported at reported
  generalize report.code = code, report.message = message at reported
  cases reported with
  | unknown unknown => exact set_of_unknown source config _ unknown
  | kind named asked wrong => exact set_of_not_admits source config named asked wrong

theorem exists_set_iff : (∃ next, set source config e.1 e.2 = .ok next) ↔ IsSound e := by
  constructor
  · rintro ⟨next, done⟩
    rcases isSound_or_isReported source e with sound | ⟨report, reported⟩
    · exact sound
    · cases done.symm.trans (set_of_isReported reported config)
  · rintro ⟨s, named, right⟩
    obtain ⟨next, done, _⟩ := set_of_admits source config named right
    exact ⟨next, done⟩

theorem exists_sets (done : set source config e.1 e.2 = .ok next) : ∃ s, Sets config e s next := by
  obtain ⟨s, named, right⟩ := exists_set_iff.mp ⟨next, done⟩
  obtain ⟨other, same, sets⟩ := set_of_admits source config named right
  cases done.symm.trans same
  exact ⟨s, sets⟩

theorem set_eq_error {failure : Failure} : set source config e.1 e.2 = .error failure ↔
    ∃ report : Report, IsReported source e report ∧ failure = .report report := by
  constructor
  · intro fails
    rcases isSound_or_isReported source e with sound | ⟨report, reported⟩
    · obtain ⟨next, done⟩ := exists_set_iff.mpr sound
      cases done.symm.trans fails
    · cases fails.symm.trans (set_of_isReported reported config)
      exact ⟨report, reported, rfl⟩
  · rintro ⟨report, reported, rfl⟩
    exact set_of_isReported reported config

/-! ### All entries -/

theorem ofEntries_append (source : String) (before after : List (String × Value)) :
    ofEntries source (before ++ after) = ofEntries source before >>= fun config =>
      after.foldlM (fun config (key, value) => set source config key value) config :=
  List.foldlM_append

theorem ofEntries_concat (source : String) (before : List (String × Value)) (e : String × Value) :
    ofEntries source (before ++ [e]) =
      ofEntries source before >>= fun config => set source config e.1 e.2 := by
  rw [ofEntries_append]
  simp only [List.foldlM_cons, List.foldlM_nil, bind_pure]

theorem exists_ofEntries_iff {entries : List (String × Value)} :
    (∃ config, ofEntries source entries = .ok config) ↔ ∀ e ∈ entries, IsSound e := by
  induction entries using List.reverseRecOn with
  | nil => exact iff_of_true ⟨_, rfl⟩ (List.forall_mem_nil _)
  | append_singleton before last ih =>
      rw [ofEntries_concat, List.forall_mem_append, List.forall_mem_singleton, ← ih]
      constructor
      · rintro ⟨next, done⟩
        obtain ⟨config, first, done⟩ := bind_eq_ok.mp done
        exact ⟨⟨config, first⟩, exists_set_iff.mp ⟨next, done⟩⟩
      · rintro ⟨⟨config, first⟩, sound⟩
        obtain ⟨next, done⟩ := exists_set_iff.mpr sound
        exact ⟨next, bind_eq_ok.mpr ⟨config, first, done⟩⟩

theorem ofEntries_eq_error {entries : List (String × Value)} {failure : Failure} :
    ofEntries source entries = .error failure ↔ ∃ before e after, ∃ report : Report,
      entries = before ++ e :: after ∧ (∀ other ∈ before, IsSound other) ∧
        IsReported source e report ∧ failure = .report report := by
  constructor
  · intro fails
    induction entries using List.reverseRecOn with
    | nil => cases fails
    | append_singleton before last ih =>
        rw [ofEntries_concat, bind_eq_error] at fails
        rcases fails with fails | ⟨config, first, fails⟩
        · obtain ⟨earlier, e, after, report, rfl, sound, told⟩ := ih fails
          exact ⟨earlier, e, after ++ [last], report, by simp, sound, told⟩
        · obtain ⟨report, told⟩ := set_eq_error.mp fails
          exact ⟨before, last, [], report, rfl, exists_ofEntries_iff.mp ⟨config, first⟩, told⟩
  · rintro ⟨before, e, after, report, rfl, sound, reported, rfl⟩
    obtain ⟨config, first⟩ := exists_ofEntries_iff.mpr sound
    rw [ofEntries_append, first, ok_bind, List.foldlM_cons]
    exact bind_eq_error.mpr (.inl (set_of_isReported reported config))

theorem path_ofEntries {entries : List (String × Value)}
    (done : ofEntries source entries = .ok config) : config.path = none := by
  induction entries using List.reverseRecOn generalizing config with
  | nil =>
      cases done
      rfl
  | append_singleton before last ih =>
      rw [ofEntries_concat] at done
      obtain ⟨first, read, written⟩ := bind_eq_ok.mp done
      obtain ⟨s, sets⟩ := exists_sets written
      exact sets.path.trans (ih read)

theorem SayLast.concat {entries : List (String × Value)} {s : Setting} {value : Value}
    (before : SayLast entries s value) (other : normalizeKey e.1 ≠ s.key) :
    SayLast (entries ++ [e]) s value := by
  cases before with
  | nothing missing =>
      exact .nothing (List.forall_mem_append.mpr ⟨missing, List.forall_mem_singleton.mpr other⟩)
  | entry split named later =>
      rw [split, List.append_assoc, List.cons_append]
      refine .entry rfl named ?_
      exact List.forall_mem_append.mpr ⟨later, List.forall_mem_singleton.mpr other⟩

theorem sayLast_held {entries : List (String × Value)}
    (done : ofEntries source entries = .ok config) (s : Setting) :
    SayLast entries s (config.held s) := by
  induction entries using List.reverseRecOn generalizing config with
  | nil =>
      cases done
      have unset : held {} s = s.default := by cases s <;> rfl
      exact unset ▸ .nothing (List.forall_mem_nil _)
  | append_singleton before last ih =>
      rw [ofEntries_concat] at done
      obtain ⟨first, read, written⟩ := bind_eq_ok.mp done
      obtain ⟨given, sets⟩ := exists_sets written
      by_cases own : s = given
      · subst own
        rw [sets.own]
        exact .entry rfl sets.named (List.forall_mem_nil _)
      · rw [sets.others s own]
        refine (ih read).concat fun also => own ?_
        exact Setting.key_injective (also.symm.trans sets.named)

/-- Options are read from a mapping just if every entry gives an option a value that it may have.
Otherwise the first entry at fault is reported, whatever comes after it: a key that names no option
as it is written, a value of a wrong kind under the normalized key. Options that are read hold what
the last entry says that normalizes to them, and their default if there is none. -/
theorem ofEntries_settled (source : String) (entries : List (String × Value)) :
    ((∃ config, ofEntries source entries = .ok config) ↔ ∀ e ∈ entries, IsSound e) ∧
    (∀ failure, ofEntries source entries = .error failure ↔
      ∃ before e after, ∃ report : Report, entries = before ++ e :: after ∧
        (∀ other ∈ before, IsSound other) ∧ IsReported source e report ∧
        failure = .report report) ∧
    ∀ config, ofEntries source entries = .ok config →
      config.path = none ∧ ∀ s, SayLast entries s (config.held s) :=
  ⟨exists_ofEntries_iff, fun _ => ofEntries_eq_error,
    fun _ done => ⟨path_ofEntries done, sayLast_held done⟩⟩

end Config
end ReleaseAdvisor
