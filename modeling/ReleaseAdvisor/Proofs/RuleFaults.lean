import Mathlib
import ReleaseAdvisor.Proofs.Outcome
import ReleaseAdvisor.Rule.Basic

/-!
What is wrong with a list of rules. A rule as written has a first fault or none: it is looked at as
a whole, then field by field, then for what it releases. The first rule with a fault decides what is
reported; without one the list is read, rule by rule.
-/

namespace ReleaseAdvisor

open Outcome

namespace Pattern.Cause

/-- A pattern is refused, but not for how it is written: a number in it exceeds what can be counted
or read, or its flags do not go together. -/
inductive EndsIn : Cause → Failure → Prop
  | counted : EndsIn .repeatTooLarge (.misuse .range)
  | read (digits : Nat) : EndsIn (.boundTooLong digits) (.refusal (.hugeNumber digits))
  | clash : EndsIn .classFlagsClash (.refusal .classFlagsClash)

def IsMisspelling (cause : Cause) : Prop := ∀ failure, ¬ cause.EndsIn failure

theorem EndsIn.ne_report {cause : Cause} {failure : Failure} (ends : cause.EndsIn failure)
    (report : Report) : failure ≠ .report report := by
  cases ends <;> simp

end Pattern.Cause

theorem Grammar.failureOf_of_endsIn {fault : Pattern.Fault} {failure : Failure}
    (ends : fault.cause.EndsIn failure) (report : Report) : failureOf fault report = failure := by
  unfold failureOf
  cases cause : fault.cause <;> rw [cause] at ends <;> cases ends <;> rfl

theorem Grammar.failureOf_of_isMisspelling {fault : Pattern.Fault}
    (misspelt : fault.cause.IsMisspelling) (report : Report) :
    failureOf fault report = .report report := by
  unfold failureOf
  split
  · rename_i cause
    rw [cause] at misspelt
    exact absurd .counted (misspelt _)
  · rename_i digits cause
    rw [cause] at misspelt
    exact absurd (.read digits) (misspelt _)
  · rename_i cause
    rw [cause] at misspelt
    exact absurd .clash (misspelt _)
  · rfl

/-! ### Fields -/

namespace Matcher

def Encloses (s source : String) : Prop := s = "/" ++ source ++ "/" ∨ s = "/" ++ source ++ "/\n"

theorem betweenSlashes?_eq_some {cs inner : List Char} :
    betweenSlashes? cs = some inner ↔
      cs = '/' :: (inner ++ ['/']) ∨ cs = '/' :: (inner ++ ['/', '\n']) := by
  unfold betweenSlashes?
  constructor
  · intro found
    split at found
    · rename_i rest
      split at found <;> cases found
      · rename_i inner reversed
        left
        rw [← List.reverse_reverse rest, reversed]
        simp
      · rename_i inner reversed
        right
        rw [← List.reverse_reverse rest, reversed]
        simp
    · cases found
  · rintro (rfl | rfl) <;> simp

theorem encloses_iff {s source : String} :
    Encloses s source ↔ betweenSlashes? s.toList = some source.toList := by
  rw [betweenSlashes?_eq_some]
  simp [Encloses, ← String.toList_inj]

theorem betweenSlashes?_eq_none {s : String} :
    betweenSlashes? s.toList = none ↔ ¬ ∃ source, Encloses s source := by
  simp only [encloses_iff]
  constructor
  · rintro none ⟨source, found⟩
    rw [none] at found
    cases found
  · intro without
    rw [Option.eq_none_iff_forall_ne_some]
    intro inner found
    exact without ⟨String.ofList inner, by rw [found, String.toList_ofList]⟩

inductive IsRefused : Value → String → String → Pattern.Fault → Prop
  | source {s source : String} {fault : Pattern.Fault} (encloses : Encloses s source)
      (wrong : Regex.read source = .error fault) : IsRefused (.text s) s source fault

/-- The matcher that a value asks for. -/
inductive IsAskedBy : Matcher → Value → Prop
  | ready (p : Regex) : IsAskedBy (.search p) (.pattern p)
  | source {s source : String} {p : Regex} (encloses : Encloses s source)
      (read : Regex.read source = .ok p) : IsAskedBy (.search p) (.text s)
  | glob {s : String} (plain : ¬ ∃ source, Encloses s source)
      (sign : ∃ c ∈ s.toList, isGlobSign c = true) : IsAskedBy (.glob s) (.text s)
  | text {s : String} (plain : ¬ ∃ source, Encloses s source)
      (signless : ∀ c ∈ s.toList, isGlobSign c = false) : IsAskedBy (.equals (.text s)) (.text s)
  | other {value : Value} (notText : ∀ s, value ≠ .text s) (notReady : ∀ p, value ≠ .pattern p) :
      IsAskedBy (.equals value) value

theorem ofValue_text_of_encloses {s source : String} (encloses : Encloses s source) :
    ofValue (.text s) =
      match Regex.read source with
      | .ok p => .ok (.search p)
      | .error fault => .error (Grammar.failureOf fault (.ruleRegexInvalid s source fault)) := by
  cases read : Regex.read source with
  | ok p => simp only [ofValue, encloses_iff.mp encloses, String.ofList_toList, read]
  | error fault => simp only [ofValue, encloses_iff.mp encloses, String.ofList_toList, read]

theorem ofValue_text_of_plain {s : String} (plain : ¬ ∃ source, Encloses s source) :
    ofValue (.text s) = .ok (if s.toList.any isGlobSign then .glob s else .equals (.text s)) := by
  simp only [ofValue, betweenSlashes?_eq_none.mpr plain]

theorem ofValue_of_other {value : Value} (notText : ∀ s, value ≠ .text s)
    (notReady : ∀ p, value ≠ .pattern p) : ofValue value = .ok (.equals value) := by
  cases value with
  | text s => exact absurd rfl (notText s)
  | pattern p => exact absurd rfl (notReady p)
  | _ => rfl

theorem ofValue_eq_ok {value : Value} {matcher : Matcher} :
    ofValue value = .ok matcher ↔ matcher.IsAskedBy value := by
  constructor
  · intro done
    cases value with
    | pattern p =>
        cases done
        exact .ready p
    | text s =>
        by_cases enclosed : ∃ source, Encloses s source
        · obtain ⟨source, encloses⟩ := enclosed
          rw [ofValue_text_of_encloses encloses] at done
          cases read : Regex.read source with
          | error fault => simp [read] at done
          | ok p =>
              simp only [read, Except.ok.injEq] at done
              subst done
              exact .source encloses read
        · rw [ofValue_text_of_plain enclosed] at done
          cases signed : s.toList.any isGlobSign with
          | true =>
              simp only [signed, if_true, Except.ok.injEq] at done
              subst done
              exact .glob enclosed (List.any_eq_true.mp signed)
          | false =>
              simp only [signed, Bool.false_eq_true, if_false, Except.ok.injEq] at done
              subst done
              refine .text enclosed fun c listed => ?_
              simpa using List.any_eq_false.mp signed c listed
    | _ =>
        cases done
        exact .other (by simp) (by simp)
  · intro asked
    cases asked with
    | ready p => rfl
    | source encloses read => rw [ofValue_text_of_encloses encloses, read]
    | glob plain sign => rw [ofValue_text_of_plain plain, if_pos (List.any_eq_true.mpr sign)]
    | text plain signless =>
        rw [ofValue_text_of_plain plain, if_neg]
        rw [Bool.not_eq_true, List.any_eq_false]
        intro c listed
        simp [signless c listed]
    | other notText notReady => exact ofValue_of_other notText notReady

theorem ofValue_eq_error {value : Value} {failure : Failure} :
    ofValue value = .error failure ↔
      ∃ s source fault, IsRefused value s source fault ∧
        failure = Grammar.failureOf fault (.ruleRegexInvalid s source fault) := by
  constructor
  · intro fails
    cases value with
    | text s =>
        by_cases enclosed : ∃ source, Encloses s source
        · obtain ⟨source, encloses⟩ := enclosed
          rw [ofValue_text_of_encloses encloses] at fails
          cases read : Regex.read source with
          | ok p => simp [read] at fails
          | error fault =>
              simp only [read, Except.error.injEq] at fails
              exact ⟨s, source, fault, .source encloses read, fails.symm⟩
        · rw [ofValue_text_of_plain enclosed] at fails
          cases fails
    | _ => cases fails
  · rintro ⟨s, source, fault, refused, rfl⟩
    obtain ⟨encloses, wrong⟩ := refused
    rw [ofValue_text_of_encloses encloses, wrong]

theorem exists_ofValue {value : Value} :
    (∃ matcher, ofValue value = .ok matcher) ↔
      ∀ s source fault, ¬ IsRefused value s source fault := by
  rw [exists_ok_iff]
  constructor
  · intro done s source fault refused
    exact done _ (ofValue_eq_error.mpr ⟨s, source, fault, refused, rfl⟩)
  · intro sound failure fails
    obtain ⟨s, source, fault, refused, _⟩ := ofValue_eq_error.mp fails
    exact sound s source fault refused

end Matcher

/-! ### Releases -/

inductive Ruling.IsWrittenAs : Ruling → Value → Prop
  | release (r : Release) : IsWrittenAs (.release r) (.text r.name)
  | suppress : IsWrittenAs .suppress (.bool false)
  | nothing : IsWrittenAs .nothing .null

theorem Release.ofName?_eq_some {s : String} {r : Release} : ofName? s = some r ↔ s = r.name := by
  constructor
  · intro found
    have same := List.find?_some found
    exact (beq_iff_eq.mp same).symm
  · rintro rfl
    cases r <;> decide

namespace Rule

theorem rulingOf_text (s : String) :
    rulingOf (.text s) =
      match Release.ofName? s with
      | some r => .ok (.release r)
      | none => .error (.report (.releaseUnknown (.text s))) := rfl

theorem rulingOf_eq_ok {value : Value} {ruling : Ruling} :
    rulingOf value = .ok ruling ↔ ruling.IsWrittenAs value := by
  constructor
  · intro done
    unfold rulingOf at done
    split at done
    · cases done
      exact .nothing
    · cases done
      exact .suppress
    · split at done
      · rename_i r found
        cases done
        rw [Release.ofName?_eq_some.mp found]
        exact .release r
      · cases done
    · split at done <;> cases done
  · intro written
    cases written with
    | release r => simp [rulingOf_text, Release.ofName?_eq_some.mpr rfl]
    | suppress => rfl
    | nothing => rfl

theorem rulingOf_of_unknown {value : Value}
    (unknown : ∀ ruling : Ruling, ¬ ruling.IsWrittenAs value) :
    rulingOf value =
      .error (if value.hasText then .report (.releaseUnknown value)
        else .refusal .unwritableNumber) := by
  unfold rulingOf
  split
  · exact absurd .nothing (unknown .nothing)
  · exact absurd .suppress (unknown .suppress)
  · rename_i s
    split
    · rename_i r found
      rw [Release.ofName?_eq_some.mp found] at unknown
      exact absurd (.release r) (unknown (.release r))
    · simp [Value.hasText]
  · split <;> rfl

theorem rulingOf_eq_error {value : Value} {failure : Failure} :
    rulingOf value = .error failure ↔
      (∀ ruling : Ruling, ¬ ruling.IsWrittenAs value) ∧
        failure = if value.hasText then .report (.releaseUnknown value)
          else .refusal .unwritableNumber := by
  constructor
  · intro fails
    have unknown : ∀ ruling : Ruling, ¬ ruling.IsWrittenAs value := by
      intro ruling written
      cases fails.symm.trans (rulingOf_eq_ok.mpr written)
    rw [rulingOf_of_unknown unknown] at fails
    cases fails
    exact ⟨unknown, rfl⟩
  · rintro ⟨unknown, rfl⟩
    exact rulingOf_of_unknown unknown

/-! ### One rule -/

def fieldEntries (entries : Entries) : Entries := entries.filter fun e => !isFlag e.1

def readFields (entries : Entries) : Except Failure (List (Value × Matcher)) :=
  (fieldEntries entries).mapM fun (name, value) => do return (name, ← Matcher.ofValue value)

theorem ofValue_of_release {entries : Entries} {release : Value}
    (releases : Entries.get? entries (.text "release") = some release) :
    ofValue (.mapping entries) = do
      let fields ← readFields entries
      return ⟨fields, ← rulingOf release, isTrue entries "breaking", isTrue entries "revert"⟩ := by
  simp only [ofValue, releases]
  rfl

theorem readFields_eq_ok {entries : Entries} {fields : List (Value × Matcher)} :
    readFields entries = .ok fields ↔
      List.Forall₂ (fun entry field => field.1 = entry.1 ∧ field.2.IsAskedBy entry.2)
        (fieldEntries entries) fields := by
  rw [readFields, mapM_eq_ok]
  have each : ∀ (entry : Value × Value) (field : Value × Matcher),
      (do return (entry.1, ← Matcher.ofValue entry.2) : Except Failure _) = .ok field ↔
        field.1 = entry.1 ∧ field.2.IsAskedBy entry.2 := by
    intro entry field
    rw [bind_eq_ok, ← Matcher.ofValue_eq_ok]
    constructor
    · rintro ⟨matcher, done, same⟩
      cases same
      exact ⟨rfl, done⟩
    · rintro ⟨name, done⟩
      refine ⟨field.2, done, ?_⟩
      rw [← name]
      rfl
  simp only [each]

def IsFirstRefused (entries : Entries) (s source : String) (fault : Pattern.Fault) : Prop :=
  ∃ earlier entry later, fieldEntries entries = earlier ++ entry :: later ∧
    (∀ other ∈ earlier, ∀ s source fault, ¬ Matcher.IsRefused other.2 s source fault) ∧
    Matcher.IsRefused entry.2 s source fault

theorem readFields_eq_error {entries : Entries} {failure : Failure} :
    readFields entries = .error failure ↔
      ∃ s source fault, IsFirstRefused entries s source fault ∧
        failure = Grammar.failureOf fault (.ruleRegexInvalid s source fault) := by
  have ends : ∀ (entry : Value × Value),
      (∃ field, (do return (entry.1, ← Matcher.ofValue entry.2) : Except Failure _) = .ok field) ↔
        ∀ s source fault, ¬ Matcher.IsRefused entry.2 s source fault := by
    intro entry
    rw [← Matcher.exists_ofValue]
    constructor
    · rintro ⟨field, done⟩
      obtain ⟨matcher, done, _⟩ := bind_eq_ok.mp done
      exact ⟨matcher, done⟩
    · rintro ⟨matcher, done⟩
      exact ⟨(entry.1, matcher), bind_eq_ok.mpr ⟨matcher, done, rfl⟩⟩
  have fails : ∀ (entry : Value × Value),
      (do return (entry.1, ← Matcher.ofValue entry.2) : Except Failure (Value × Matcher)) =
          .error failure ↔ Matcher.ofValue entry.2 = .error failure := by
    intro entry
    rw [bind_eq_error]
    simp [pure, Except.pure]
  simp only [readFields, mapM_eq_error, ends, fails, Matcher.ofValue_eq_error]
  constructor
  · rintro ⟨earlier, entry, later, split, sound, s, source, fault, refused, rfl⟩
    exact ⟨s, source, fault, ⟨earlier, entry, later, split, sound, refused⟩, rfl⟩
  · rintro ⟨s, source, fault, ⟨earlier, entry, later, split, sound, refused⟩, rfl⟩
    exact ⟨earlier, entry, later, split, sound, s, source, fault, refused, rfl⟩

theorem exists_readFields {entries : Entries} :
    (∃ fields, readFields entries = .ok fields) ↔
      ∀ s source fault, ¬ IsFirstRefused entries s source fault := by
  rw [exists_ok_iff]
  constructor
  · intro done s source fault first
    exact done _ (readFields_eq_error.mpr ⟨s, source, fault, first, rfl⟩)
  · intro sound failure fails
    obtain ⟨s, source, fault, first, _⟩ := readFields_eq_error.mp fails
    exact sound s source fault first

theorem isTrue_iff {entries : Entries} {name : String} :
    isTrue entries name = true ↔ Entries.get? entries (.text name) = some (.bool true) := by
  unfold isTrue
  split
  · rename_i found
    simp [found]
  · rename_i other
    simpa using other

inductive IsWrittenAs (rule : Rule) : Value → Prop
  | rule {entries : Entries} {release : Value}
      (releases : Entries.get? entries (.text "release") = some release)
      (fields : List.Forall₂ (fun entry field => field.1 = entry.1 ∧ field.2.IsAskedBy entry.2)
        (fieldEntries entries) rule.fields)
      (ruling : rule.ruling.IsWrittenAs release)
      (breaking : rule.breaking = true ↔
        Entries.get? entries (.text "breaking") = some (.bool true))
      (revert : rule.revert = true ↔ Entries.get? entries (.text "revert") = some (.bool true)) :
      IsWrittenAs rule (.mapping entries)

def Releases (item : Value) : Prop :=
  ∃ entries release, item = .mapping entries ∧ Entries.get? entries (.text "release") = some release

/-- The first thing that is wrong with a rule as written, with its code. -/
inductive IsFaulty : Value → Code → Report → Prop
  | malformed {item : Value} (without : ¬ Releases item) :
      IsFaulty item .releaseInvalid .ruleMalformed
  | field {entries : Entries} {s source : String} {fault : Pattern.Fault}
      (releases : Releases (.mapping entries)) (first : IsFirstRefused entries s source fault)
      (misspelt : fault.cause.IsMisspelling) :
      IsFaulty (.mapping entries) .configInvalid (.ruleRegexInvalid s source fault)
  | release {entries : Entries} {release : Value}
      (releases : Entries.get? entries (.text "release") = some release)
      (sound : ∀ s source fault, ¬ IsFirstRefused entries s source fault)
      (unknown : ∀ ruling : Ruling, ¬ ruling.IsWrittenAs release) (writable : release.hasText) :
      IsFaulty (.mapping entries) .releaseInvalid (.releaseUnknown release)

/-- Reading a rule ends without a report: the first field that is refused is refused for something
else than how it is written, or what is to be released has no text to report. -/
inductive BreaksOff : Value → Failure → Prop
  | field {entries : Entries} {s source : String} {fault : Pattern.Fault} {failure : Failure}
      (releases : Releases (.mapping entries)) (first : IsFirstRefused entries s source fault)
      (ends : fault.cause.EndsIn failure) : BreaksOff (.mapping entries) failure
  | release {entries : Entries} {release : Value}
      (releases : Entries.get? entries (.text "release") = some release)
      (sound : ∀ s source fault, ¬ IsFirstRefused entries s source fault)
      (unknown : ∀ ruling : Ruling, ¬ ruling.IsWrittenAs release)
      (unwritable : release.hasText = false) :
      BreaksOff (.mapping entries) (.refusal .unwritableNumber)

theorem ofValue_of_not_releases {item : Value} (without : ¬ Releases item) :
    ofValue item = .error (.report .ruleMalformed) := by
  unfold ofValue
  split
  · rename_i entries
    cases found : Entries.get? entries (.text "release") with
    | none => rfl
    | some release => exact absurd ⟨entries, release, rfl, found⟩ without
  · rfl

theorem ofValue_eq_ok {item : Value} {rule : Rule} :
    ofValue item = .ok rule ↔ rule.IsWrittenAs item := by
  constructor
  · intro done
    by_cases given : Releases item
    · obtain ⟨entries, release, rfl, releases⟩ := given
      rw [ofValue_of_release releases] at done
      obtain ⟨fields, read, done⟩ := bind_eq_ok.mp done
      obtain ⟨ruling, ruled, done⟩ := bind_eq_ok.mp done
      cases done
      exact .rule releases (readFields_eq_ok.mp read) (rulingOf_eq_ok.mp ruled) isTrue_iff
        isTrue_iff
    · rw [ofValue_of_not_releases given] at done
      cases done
  · rintro ⟨releases, fields, ruling, breaking, revert⟩
    rw [ofValue_of_release releases, readFields_eq_ok.mpr fields, rulingOf_eq_ok.mpr ruling]
    have flags : isTrue _ "breaking" = rule.breaking ∧ isTrue _ "revert" = rule.revert :=
      ⟨Bool.eq_iff_iff.mpr (isTrue_iff.trans breaking.symm),
        Bool.eq_iff_iff.mpr (isTrue_iff.trans revert.symm)⟩
    simp only [ok_bind, flags.1, flags.2]
    rfl

theorem ofValue_eq_error {entries : Entries} {release : Value} {failure : Failure}
    (releases : Entries.get? entries (.text "release") = some release) :
    ofValue (.mapping entries) = .error failure ↔
      (∃ s source fault, IsFirstRefused entries s source fault ∧
        failure = Grammar.failureOf fault (.ruleRegexInvalid s source fault)) ∨
      (∀ s source fault, ¬ IsFirstRefused entries s source fault) ∧
        rulingOf release = .error failure := by
  rw [ofValue_of_release releases, bind_eq_error, readFields_eq_error, ← exists_readFields]
  refine or_congr_right ?_
  constructor
  · rintro ⟨fields, read, fails⟩
    rcases bind_eq_error.mp fails with fails | ⟨_, _, same⟩
    · exact ⟨⟨fields, read⟩, fails⟩
    · cases same
  · rintro ⟨⟨fields, read⟩, fails⟩
    exact ⟨fields, read, bind_eq_error.mpr (.inl fails)⟩

theorem IsFaulty.ofValue_eq {item : Value} {code : Code} {report : Report}
    (faulty : IsFaulty item code report) : ofValue item = .error (.report report) := by
  cases faulty with
  | malformed without => exact ofValue_of_not_releases without
  | @field entries s source fault releases first misspelt =>
      obtain ⟨_, release, same, releases⟩ := releases
      cases same
      refine (ofValue_eq_error releases).mpr (.inl ⟨s, source, fault, first, ?_⟩)
      rw [Grammar.failureOf_of_isMisspelling misspelt]
  | release releases sound unknown writable =>
      refine (ofValue_eq_error releases).mpr (.inr ⟨sound, rulingOf_eq_error.mpr ⟨unknown, ?_⟩⟩)
      rw [if_pos writable]

theorem BreaksOff.ofValue_eq {item : Value} {failure : Failure} (breaks : BreaksOff item failure) :
    ofValue item = .error failure := by
  cases breaks with
  | @field entries s source fault failure releases first ends =>
      obtain ⟨_, release, same, releases⟩ := releases
      cases same
      refine (ofValue_eq_error releases).mpr (.inl ⟨s, source, fault, first, ?_⟩)
      rw [Grammar.failureOf_of_endsIn ends]
  | release releases sound unknown unwritable =>
      refine (ofValue_eq_error releases).mpr (.inr ⟨sound, rulingOf_eq_error.mpr ⟨unknown, ?_⟩⟩)
      rw [unwritable]
      rfl

theorem isFaulty_or_breaksOff {item : Value} {failure : Failure}
    (fails : ofValue item = .error failure) :
    (∃ report, failure = .report report ∧ IsFaulty item report.code report) ∨
      BreaksOff item failure := by
  by_cases given : Releases item
  · obtain ⟨entries, release, rfl, releases⟩ := given
    have given : Releases (.mapping entries) := ⟨entries, release, rfl, releases⟩
    rcases (ofValue_eq_error releases).mp fails with
      ⟨s, source, fault, first, rfl⟩ | ⟨sound, unruled⟩
    · by_cases misspelt : fault.cause.IsMisspelling
      · rw [Grammar.failureOf_of_isMisspelling misspelt]
        exact .inl ⟨_, rfl, .field given first misspelt⟩
      · simp only [Pattern.Cause.IsMisspelling, not_forall, not_not] at misspelt
        obtain ⟨failure, ends⟩ := misspelt
        rw [Grammar.failureOf_of_endsIn ends]
        exact .inr (.field given first ends)
    · obtain ⟨unknown, rfl⟩ := rulingOf_eq_error.mp unruled
      cases writable : release.hasText with
      | true => exact .inl ⟨_, rfl, .release releases sound unknown writable⟩
      | false => exact .inr (.release releases sound unknown writable)
  · rw [ofValue_of_not_releases given] at fails
    cases fails
    exact .inl ⟨_, rfl, .malformed given⟩

theorem BreaksOff.ne_report {item : Value} {failure : Failure} (breaks : BreaksOff item failure)
    (report : Report) : failure ≠ .report report := by
  cases breaks with
  | field releases first ends => exact ends.ne_report report
  | release releases sound unknown unwritable => simp

theorem ofValue_eq_report {item : Value} {report : Report} :
    ofValue item = .error (.report report) ↔ IsFaulty item report.code report := by
  constructor
  · intro fails
    rcases isFaulty_or_breaksOff fails with ⟨_, same, faulty⟩ | breaks
    · cases same
      exact faulty
    · exact absurd rfl (breaks.ne_report report)
  · exact IsFaulty.ofValue_eq

theorem breaksOff_iff {item : Value} {failure : Failure} :
    BreaksOff item failure ↔
      ofValue item = .error failure ∧ ∀ report, failure ≠ .report report := by
  constructor
  · intro breaks
    exact ⟨breaks.ofValue_eq, breaks.ne_report⟩
  · rintro ⟨fails, unreported⟩
    rcases isFaulty_or_breaksOff fails with ⟨report, same, _⟩ | breaks
    · exact absurd same (unreported report)
    · exact breaks

def IsSound (item : Value) : Prop :=
  (∀ code report, ¬ IsFaulty item code report) ∧ ∀ failure, ¬ BreaksOff item failure

theorem isSound_iff {item : Value} : IsSound item ↔ ∃ rule, ofValue item = .ok rule := by
  rw [exists_ok_iff]
  constructor
  · rintro ⟨faultless, ends⟩ failure fails
    rcases isFaulty_or_breaksOff fails with ⟨report, _, faulty⟩ | breaks
    · exact faultless _ report faulty
    · exact ends failure breaks
  · intro read
    exact ⟨fun code report faulty => read _ faulty.ofValue_eq, fun failure breaks =>
      read failure breaks.ofValue_eq⟩

end Rule

/-! ### A list of rules -/

namespace RuleSet

theorem ofValue_eq_ok {items : List Value} {rules : RuleSet} :
    ofValue (.list items) = .ok rules ↔
      List.Forall₂ (fun item rule => Rule.IsWrittenAs rule item) items rules := by
  change items.mapM Rule.ofValue = .ok rules ↔ _
  simp only [mapM_eq_ok, Rule.ofValue_eq_ok]

theorem ofValue_eq_error {items : List Value} {failure : Failure} :
    ofValue (.list items) = .error failure ↔
      ∃ earlier item later, items = earlier ++ item :: later ∧
        (∀ other ∈ earlier, Rule.IsSound other) ∧ Rule.ofValue item = .error failure := by
  change items.mapM Rule.ofValue = .error failure ↔ _
  simp only [mapM_eq_error, Rule.isSound_iff]

theorem exists_ofValue {items : List Value} :
    (∃ rules, ofValue (.list items) = .ok rules) ↔ ∀ item ∈ items, Rule.IsSound item := by
  simp only [Rule.isSound_iff]
  constructor
  · rintro ⟨rules, read⟩
    exact exists_of_mapM read
  · exact mapM_returns

/-- A list of values is a list of rules just if nothing is wrong with any of them, and then each
writes one, in this order. Otherwise the first one with a fault decides, and that fault is reported,
unless reading this one breaks off. -/
theorem ofValue_list (items : List Value) :
    ((∃ rules, ofValue (.list items) = .ok rules) ↔ ∀ item ∈ items, Rule.IsSound item) ∧
      (∀ rules, ofValue (.list items) = .ok rules ↔
        List.Forall₂ (fun item rule => Rule.IsWrittenAs rule item) items rules) ∧
      (∀ report, ofValue (.list items) = .error (.report report) ↔
        ∃ earlier item later, items = earlier ++ item :: later ∧
          (∀ other ∈ earlier, Rule.IsSound other) ∧ Rule.IsFaulty item report.code report) ∧
      ∀ failure, (∀ report, failure ≠ .report report) →
        (ofValue (.list items) = .error failure ↔
          ∃ earlier item later, items = earlier ++ item :: later ∧
            (∀ other ∈ earlier, Rule.IsSound other) ∧ Rule.BreaksOff item failure) := by
  refine ⟨exists_ofValue, fun rules => ofValue_eq_ok, fun report => ?_, fun failure other => ?_⟩
  · simp only [ofValue_eq_error, Rule.ofValue_eq_report]
  · simp only [ofValue_eq_error, Rule.breaksOff_iff, other, ne_eq, not_false_eq_true, implies_true,
      and_true]

end RuleSet

namespace Sample

def clashingRule : Value :=
  .mapping [(.text "type", .text "/(?a)(?u)x/"), (.text "release", .text "minor")]

end Sample

open Sample

theorem breaksOff_clashingRule : Rule.BreaksOff clashingRule (.refusal .classFlagsClash) := by
  have wrong : Regex.read "(?a)(?u)x" = .error ⟨.classFlagsClash, none⟩ := by decide +kernel
  have refused := Matcher.IsRefused.source (.inl (by decide +kernel)) wrong (s := "/(?a)(?u)x/")
  have releases : Rule.Releases clashingRule := ⟨_, .text "minor", rfl, by cbv⟩
  refine .field releases ⟨[], (.text "type", _), [], ?_, by simp, refused⟩ .clash
  simp [Rule.fieldEntries, Rule.isFlag]

/-- Nothing is wrong with the rule as written, but there is no rule to read. -/
theorem RuleSet.ofValue_clashing :
    (∀ item ∈ [clashingRule], ∀ code report, ¬ Rule.IsFaulty item code report) ∧
      ¬ ∃ rules, ofValue (.list [clashingRule]) = .ok rules := by
  constructor
  · intro item listed code report faulty
    obtain rfl := List.mem_singleton.mp listed
    cases faulty.ofValue_eq.symm.trans breaksOff_clashingRule.ofValue_eq
  · intro accepted
    have sound := exists_ofValue.mp accepted clashingRule List.mem_cons_self
    exact sound.2 _ breaksOff_clashingRule

end ReleaseAdvisor
