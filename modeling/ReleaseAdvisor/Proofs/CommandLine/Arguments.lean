import Mathlib.Data.List.Basic
import ReleaseAdvisor.CommandLine.Request
import ReleaseAdvisor.Proofs.Outcome
import ReleaseAdvisor.Proofs.Text

/-!
Command lines written for a request. Whatever options a request has and whatever their values look
like, it is read back from the command line that spells them out.
-/

namespace ReleaseAdvisor.CommandLine

open Outcome

def Flag.argument (f : Flag) (value : String) : String :=
  if f.takesValue then f.names.headD "" ++ "=" ++ value else f.names.headD ""

def Flag.token (f : Flag) (value : String) : Token :=
  .option f (if f.takesValue then some (.value value.toList) else none)

namespace AnalyzeRequest

def options (r : AnalyzeRequest) : List (Flag × String) :=
  (r.configFile.map (Flag.configFile, ·)).toList ++ (r.preset.map (Flag.preset, ·)).toList ++
    (r.grammar.map (Flag.grammar, ·)).toList ++ (r.releaseRules.map (Flag.releaseRules, ·)).toList ++
    (if r.initialPhase then [(Flag.initialPhase, "")] else []) ++
    (if r.json then [(Flag.json, "")] else [])

end AnalyzeRequest

/-! ### One option -/

theorem cutEquals_append {name : List Char} (plain : '=' ∉ name) (value : List Char) :
    Shape.cutEquals (name ++ '=' :: value) = (name, some value) := by
  have other : ∀ c ∈ name, (c != '=') = true := by
    intro c inside
    rw [bne_iff_ne]
    rintro rfl
    exact plain inside
  simp only [Shape.cutEquals, List.dropWhile_append_of_pos other, List.takeWhile_append_of_pos other]
  simp

theorem flag?_eq_none {shape : Shape} {cs : List Char}
    (plain : ∀ f ∈ shape.flags, ∀ n ∈ f.names, '=' ∉ n.toList) (equals : '=' ∈ cs) :
    shape.flag? cs = none := by
  rw [Shape.flag?, List.find?_eq_none]
  intro f known named
  obtain ⟨n, listed, same⟩ := List.any_eq_true.mp named
  exact plain f known n listed (beq_iff_eq.mp same ▸ equals)

section Token

variable {shape : Shape} {name : List Char}

theorem written?_equals (plain : ∀ f ∈ shape.flags, ∀ n ∈ f.names, '=' ∉ n.toList)
    (bare : '=' ∉ name) (value : List Char) :
    shape.written? ('-' :: '-' :: (name ++ '=' :: value)) =
      (shape.flag? ('-' :: '-' :: name)).map fun f => .option f (some (.value value)) := by
  have none : shape.flag? ('-' :: '-' :: (name ++ '=' :: value)) = none :=
    flag?_eq_none plain (by simp)
  have cut := cutEquals_append (show '=' ∉ '-' :: '-' :: name by simp [bare]) value
  rw [List.cons_append, List.cons_append] at cut
  rw [Shape.written?, none]
  simp only [cut]
  cases shape.flag? ('-' :: '-' :: name) <;> rfl

theorem token_equals (text : List Char) :
    shape.token (String.ofList ('-' :: '-' :: text)) =
      match shape.written? ('-' :: '-' :: text) with
      | some t => .ok t
      | none =>
        match shape.meanings ('-' :: '-' :: text) with
        | [(f, attached)] => .ok (.option f attached)
        | [] => .ok (if Shape.isNegativeNumber ('-' :: '-' :: text) ||
            ('-' :: '-' :: text).contains ' '
          then .value (String.ofList ('-' :: '-' :: text))
          else .unknown (String.ofList ('-' :: '-' :: text)))
        | _ => .error .usage := by
  simp only [Shape.token, String.toList_ofList]
  rfl

theorem token_of_flag? {f : Flag} (plain : ∀ f ∈ shape.flags, ∀ n ∈ f.names, '=' ∉ n.toList)
    (bare : '=' ∉ name) (known : shape.flag? ('-' :: '-' :: name) = some f) (value : List Char) :
    shape.token (String.ofList ('-' :: '-' :: (name ++ '=' :: value))) =
      .ok (.option f (some (.value value))) := by
  rw [token_equals, written?_equals plain bare, known]
  rfl

theorem token_of_no_form (plain : ∀ f ∈ shape.flags, ∀ n ∈ f.names, '=' ∉ n.toList)
    (bare : '=' ∉ name) (unknown : shape.flag? ('-' :: '-' :: name) = none)
    (foreign : shape.formsWith (List.isPrefixOf ('-' :: '-' :: name)) = []) (value : List Char) :
    ∃ t, shape.token (String.ofList ('-' :: '-' :: (name ++ '=' :: value))) = .ok t := by
  have cut := cutEquals_append (show '=' ∉ '-' :: '-' :: name by simp [bare]) value
  rw [List.cons_append, List.cons_append] at cut
  have meaningless : shape.meanings ('-' :: '-' :: (name ++ '=' :: value)) = [] := by
    have long : Shape.isLong ('-' :: '-' :: (name ++ '=' :: value)) = true := rfl
    simp only [Shape.meanings, long, if_true, cut, foreign, List.map_nil]
  rw [token_equals, written?_equals plain bare, unknown, meaningless]
  exact ⟨_, rfl⟩

end Token

/-! ### The options of an analysis -/

def valuedFlags : List Flag := [.configFile, .preset, .grammar, .releaseRules]

def switchFlags : List Flag := [.initialPhase, .json]

theorem plain_analyzeShape : ∀ f ∈ analyzeShape.flags, ∀ n ∈ f.names, '=' ∉ n.toList := by
  decide +kernel

theorem plain_programShape : ∀ f ∈ programShape.flags, ∀ n ∈ f.names, '=' ∉ n.toList := by
  decide +kernel

def Flag.spelled (f : Flag) : List Char := (f.names.headD "").toList.drop 2

theorem argument_of_valued {f : Flag} (valued : f ∈ valuedFlags) (value : String) :
    f.argument value = String.ofList ('-' :: '-' :: (f.spelled ++ '=' :: value.toList)) := by
  have each : ∀ f ∈ valuedFlags, f.takesValue = true ∧
      (f.names.headD "").toList = '-' :: '-' :: f.spelled := by
    decide +kernel
  obtain ⟨takes, long⟩ := each f valued
  apply String.toList_inj.mp
  rw [Flag.argument, if_pos takes, String.toList_append, String.toList_append, long,
    String.toList_ofList]
  simp

theorem argument_of_switch {f : Flag} (switch : f ∈ switchFlags) (value : String) :
    f.argument value = f.argument "" := by
  have each : ∀ f ∈ switchFlags, f.takesValue = false := by decide
  simp only [Flag.argument, each f switch]
  rfl

theorem token_argument {f : Flag} (known : f ∈ valuedFlags ++ switchFlags) (value : String) :
    analyzeShape.token (f.argument value) = .ok (f.token value) := by
  rcases List.mem_append.mp known with valued | switch
  · have each : ∀ f ∈ valuedFlags, f.takesValue = true ∧ '=' ∉ f.spelled ∧
        analyzeShape.flag? ('-' :: '-' :: f.spelled) = some f := by
      decide +kernel
    obtain ⟨takes, bare, named⟩ := each f valued
    rw [argument_of_valued valued, Flag.token, if_pos takes]
    exact token_of_flag? plain_analyzeShape bare named _
  · have each : ∀ f ∈ switchFlags, f.takesValue = false ∧
        analyzeShape.token (f.argument "") = .ok (.option f none) := by
      decide +kernel
    obtain ⟨single, read⟩ := each f switch
    rw [argument_of_switch switch, read, Flag.token, single]
    rfl

theorem exists_token_argument {f : Flag} (known : f ∈ valuedFlags ++ switchFlags)
    (value : String) : ∃ t, programShape.token (f.argument value) = .ok t := by
  rcases List.mem_append.mp known with valued | switch
  · have each : ∀ f ∈ valuedFlags, '=' ∉ f.spelled ∧
        programShape.flag? ('-' :: '-' :: f.spelled) = none ∧
        programShape.formsWith (List.isPrefixOf ('-' :: '-' :: f.spelled)) = [] := by
      decide +kernel
    obtain ⟨bare, unknown, foreign⟩ := each f valued
    rw [argument_of_valued valued]
    exact token_of_no_form plain_programShape bare unknown foreign _
  · have each : ∀ f ∈ switchFlags, (programShape.token (f.argument "")).isOk = true := by
      decide +kernel
    rw [argument_of_switch switch]
    exact isOk_iff.mp (each f switch)

theorem argument_ne {f : Flag} (known : f ∈ valuedFlags ++ switchFlags) (value : String) :
    (f.argument value == "--") = false := by
  rw [beq_eq_false_iff_ne]
  rcases List.mem_append.mp known with valued | switch
  · rw [argument_of_valued valued]
    intro same
    have short := congrArg (fun s => s.toList.length) same
    simp at short
  · have each : ∀ f ∈ switchFlags, f.argument "" ≠ "--" := by decide +kernel
    rw [argument_of_switch switch]
    exact each f switch

/-! ### All arguments -/

def arguments (options : List (Flag × String)) (source : String) : List String :=
  options.map (fun e => e.1.argument e.2) ++ ["--", source]

variable {options : List (Flag × String)}

theorem tokens_arguments (known : ∀ e ∈ options, e.1 ∈ valuedFlags ++ switchFlags)
    (source : String) : analyzeShape.tokens (arguments options source) =
      .ok (options.map (fun e => (e.1.token e.2, e.1.argument e.2)) ++
        [(.endOfOptions, "--"), (.value source, source)]) := by
  induction options with
  | nil => rfl
  | cons e options ih =>
      obtain ⟨first, later⟩ := List.forall_mem_cons.mp known
      change analyzeShape.tokens (e.1.argument e.2 :: arguments options source) = _
      rw [Shape.tokens, argument_ne first, token_argument first, ih later]
      rfl

theorem exists_tokens_arguments (known : ∀ e ∈ options, e.1 ∈ valuedFlags ++ switchFlags)
    (source : String) : ∃ tokens, programShape.tokens (arguments options source) = .ok tokens ∧
      tokens.map (·.2) = arguments options source := by
  induction options with
  | nil => exact ⟨_, rfl, rfl⟩
  | cons e options ih =>
      obtain ⟨first, later⟩ := List.forall_mem_cons.mp known
      obtain ⟨tokens, read, same⟩ := ih later
      obtain ⟨t, token⟩ := exists_token_argument first e.2
      refine ⟨(t, e.1.argument e.2) :: tokens, ?_, by rw [List.map_cons, same]; rfl⟩
      change programShape.tokens (e.1.argument e.2 :: arguments options source) = _
      rw [Shape.tokens, argument_ne first, token, read]
      rfl

theorem note_known {f : Flag} (known : f ∈ valuedFlags ++ switchFlags) (given : Given)
    (value : String) : given.note f value = .ok { given with flags := given.flags ++ [(f, value)] } := by
  have each : ∀ f ∈ valuedFlags ++ switchFlags, f ≠ .help ∧ f ≠ .version := by decide
  obtain ⟨noHelp, noVersion⟩ := each f known
  rw [Given.note]
  · exact noHelp
  · exact noVersion

theorem read_tokens (known : ∀ e ∈ options, e.1 ∈ valuedFlags ++ switchFlags ∧
      (e.1.takesValue = false → e.2 = "")) (given : Given) (rest : List (Token × String)) :
    analyzeShape.read given
        (options.map (fun e => (e.1.token e.2, e.1.argument e.2)) ++ rest) =
      analyzeShape.read { given with flags := given.flags ++ options } rest := by
  induction options generalizing given with
  | nil =>
      rw [List.map_nil, List.nil_append, List.append_nil]
  | cons e options ih =>
      obtain ⟨⟨first, empty⟩, later⟩ := List.forall_mem_cons.mp known
      have step : analyzeShape.read given ((e.1.token e.2, e.1.argument e.2) ::
          (options.map (fun e => (e.1.token e.2, e.1.argument e.2)) ++ rest)) =
            analyzeShape.read { given with flags := given.flags ++ [e] }
              (options.map (fun e => (e.1.token e.2, e.1.argument e.2)) ++ rest) := by
        have noted := note_known first given
        cases takes : e.1.takesValue with
        | true =>
            rw [Flag.token, if_pos takes, Shape.read, Shape.noteAttached, if_pos takes, noted,
              String.ofList_toList]
            rfl
        | false =>
            have single : e.1.token e.2 = .option e.1 none := by
              rw [Flag.token, takes]
              rfl
            have same : e = (e.1, "") := by rw [← empty takes]
            rw [single, Shape.read.eq_def]
            simp only [takes, noted, Bool.false_eq_true, if_false, ok_bind, ← same]
      rw [List.map_cons, List.cons_append, step, ih later, List.append_assoc]
      rfl

theorem known_options (r : AnalyzeRequest) : ∀ e ∈ r.options,
    e.1 ∈ valuedFlags ++ switchFlags ∧ (e.1.takesValue = false → e.2 = "") := by
  have valued (value : Option String) {f : Flag} (takes : f ∈ valuedFlags) :
      ∀ e ∈ (value.map (f, ·)).toList,
        e.1 ∈ valuedFlags ++ switchFlags ∧ (e.1.takesValue = false → e.2 = "") := by
    have each : ∀ f ∈ valuedFlags, f.takesValue = true := by decide
    cases value with
    | none => exact List.forall_mem_nil _
    | some value =>
        refine List.forall_mem_singleton.mpr ⟨List.mem_append_left _ takes, fun single => ?_⟩
        rw [each f takes] at single
        cases single
  have switch (given : Bool) {f : Flag} (single : f ∈ switchFlags) :
      ∀ e ∈ (if given then [(f, "")] else []),
        e.1 ∈ valuedFlags ++ switchFlags ∧ (e.1.takesValue = false → e.2 = "") := by
    cases given with
    | false => exact List.forall_mem_nil _
    | true => exact List.forall_mem_singleton.mpr ⟨List.mem_append_right _ single, fun _ => rfl⟩
  simp only [AnalyzeRequest.options, List.forall_mem_append]
  exact ⟨⟨⟨⟨⟨valued _ (by decide), valued _ (by decide)⟩, valued _ (by decide)⟩,
    valued _ (by decide)⟩, switch _ (by decide)⟩, switch _ (by decide)⟩

theorem find?_valued (value : Option String) (f g : Flag) :
    ((value.map (f, ·)).toList.reverse.find? fun e => e.1 == g).map (·.2) =
      if f = g then value else none := by
  cases value with
  | none => simp
  | some value => by_cases same : f = g <;> simp [same]

theorem find?_switch (given : Bool) (f g : Flag) :
    ((if given then [(f, "")] else []).reverse.find? fun e => e.1 == g).map (·.2) =
      if f = g ∧ given = true then some "" else none := by
  cases given with
  | false => simp
  | true => by_cases same : f = g <;> simp [same]

theorem ofGiven_options (r : AnalyzeRequest) :
    AnalyzeRequest.ofGiven { flags := r.options, values := some [r.source] } = r := by
  have shown (given : Bool) : (if given = true then some "" else none).isSome = given := by
    cases given <;> rfl
  simp [AnalyzeRequest.ofGiven, AnalyzeRequest.options, Given.has, Given.value?,
    List.find?_append, Option.map_or, find?_valued, find?_switch, shown]

/-- A request is read back from the command line that spells it out. -/
theorem ofArgs_arguments (r : AnalyzeRequest) :
    Request.ofArgs ("analyze" :: arguments r.options r.source) =
      .ok ⟨.usual, false, .analyze r⟩ := by
  have known := known_options r
  have names : ∀ e ∈ r.options, e.1 ∈ valuedFlags ++ switchFlags := fun e listed =>
    (known e listed).1
  obtain ⟨tokens, read, same⟩ := exists_tokens_arguments names r.source
  have program : programShape.readAll ("analyze" :: arguments r.options r.source) =
      .ok { values := some ("analyze" :: arguments r.options r.source) } := by
    have command : programShape.token "analyze" = .ok (.value "analyze") := by decide +kernel
    have other : ("analyze" == "--") = false := by decide
    rw [Shape.readAll, Shape.tokens, other, command, read, ← same]
    change programShape.read {} ((.value "analyze", "analyze") :: tokens) = _
    rw [Shape.read]
    rfl
  have analysis : analyzeShape.readAll (arguments r.options r.source) =
      .ok { flags := r.options, values := some [r.source] } := by
    rw [Shape.readAll, tokens_arguments names, ok_bind, read_tokens known]
    rfl
  have command : Command.ofArgs "analyze" (arguments r.options r.source) =
      .ok (.analyze r, false) := by
    rw [Command.ofArgs, if_pos (beq_self_eq_true _), analysis, ok_bind, ofGiven_options]
    rfl
  rw [Request.ofArgs, program, ok_bind]
  simp only [command]
  rfl

end ReleaseAdvisor.CommandLine
