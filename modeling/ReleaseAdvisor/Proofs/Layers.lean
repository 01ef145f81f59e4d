import ReleaseAdvisor.Proofs.Loading

/-!
Layers of options, read by the keys of a grammar. Of all entries for one option only the last of the
upper layer counts, or else the last of the lower one; what no entry names keeps its default.
-/

namespace ReleaseAdvisor

namespace Grammar

/-! ### The ten options -/

inductive Attribute where
  | headerPattern
  | headerNames
  | breakingHeaderPattern
  | mergePattern
  | mergeNames
  | revertPattern
  | revertNames
  | noteKeywords
  | fieldPattern
  | comment
  deriving DecidableEq, Repr

namespace Attribute

def key : Attribute → String
  | .headerPattern => "header_pattern"
  | .headerNames => "header_correspondence"
  | .breakingHeaderPattern => "breaking_header_pattern"
  | .mergePattern => "merge_pattern"
  | .mergeNames => "merge_correspondence"
  | .revertPattern => "revert_pattern"
  | .revertNames => "revert_correspondence"
  | .noteKeywords => "note_keywords"
  | .fieldPattern => "field_pattern"
  | .comment => "comment_char"

def all : List Attribute :=
  [.headerPattern, .headerNames, .breakingHeaderPattern, .mergePattern, .mergeNames,
    .revertPattern, .revertNames, .noteKeywords, .fieldPattern, .comment]

theorem mem_all (a : Attribute) : a ∈ all := by
  cases a <;> decide

def isListing : Attribute → Bool
  | .headerNames | .mergeNames | .revertNames | .noteKeywords => true
  | _ => false

def taken (a : Attribute) (value : Value) : Value :=
  if a.isListing then listOption value else value

end Attribute

def Options.value (options : Options) : Attribute → Value
  | .headerPattern => options.headerPattern
  | .headerNames => options.headerCorrespondence
  | .breakingHeaderPattern => options.breakingHeaderPattern
  | .mergePattern => options.mergePattern
  | .mergeNames => options.mergeCorrespondence
  | .revertPattern => options.revertPattern
  | .revertNames => options.revertCorrespondence
  | .noteKeywords => options.noteKeywords
  | .fieldPattern => options.fieldPattern
  | .comment => options.commentChar

namespace Options

theorem ext_value {options others : Options} (same : ∀ a, options.value a = others.value a) :
    options = others := by
  cases options
  cases others
  congr
  · exact same .headerPattern
  · exact same .headerNames
  · exact same .breakingHeaderPattern
  · exact same .mergePattern
  · exact same .mergeNames
  · exact same .revertPattern
  · exact same .revertNames
  · exact same .noteKeywords
  · exact same .fieldPattern
  · exact same .comment

theorem value_set (options : Options) (key : String) (value : Value) (a : Attribute) :
    (options.set key value).value a = if key = a.key then a.taken value else options.value a := by
  unfold set
  split
  case h_11 =>
    have unlike : key ≠ a.key := by
      rintro rfl
      cases a <;> simp_all [Attribute.key]
    rw [if_neg unlike]
  all_goals cases a <;> rfl

end Options

/-! ### The last entry for a key -/

def Layer.last? (layer : Layer) (key : String) : Option Value :=
  (layer.reverse.find? fun e => normalizeKey e.1 == key).map (·.2)

namespace Layer

theorem last?_append (lower upper : Layer) (key : String) :
    Layer.last? (lower ++ upper) key = (upper.last? key).or (lower.last? key) := by
  rw [Layer.last?, List.reverse_append, List.find?_append, Option.map_or]
  rfl

theorem last?_cons (e : String × Value) (layer : Layer) (key : String) :
    Layer.last? (e :: layer) key =
      (layer.last? key).or (if normalizeKey e.1 = key then some e.2 else none) := by
  have single : Layer.last? [e] key = if normalizeKey e.1 = key then some e.2 else none := by
    by_cases named : normalizeKey e.1 = key <;> simp [Layer.last?, named]
  rw [← single, ← last?_append]
  rfl

theorem last?_eq_none {layer : Layer} {key : String}
    (missing : ∀ e ∈ layer, normalizeKey e.1 ≠ key) : layer.last? key = none := by
  rw [Layer.last?, Option.map_eq_none_iff, List.find?_eq_none]
  intro e listed named
  exact missing e (List.mem_reverse.mp listed) (beq_iff_eq.mp named)

theorem last?_filter (layer : Layer) {chosen : String × Value → Bool} {key : String}
    (keeps : ∀ e, normalizeKey e.1 = key → chosen e = true) :
    Layer.last? (layer.filter chosen) key = layer.last? key := by
  induction layer with
  | nil => rfl
  | cons e layer ih =>
      by_cases kept : chosen e = true
      · rw [List.filter_cons_of_pos kept, last?_cons, last?_cons, ih]
      · have other : normalizeKey e.1 ≠ key := fun named => kept (keeps e named)
        rw [List.filter_cons_of_neg kept, last?_cons, ih, if_neg other, Option.or_none]

end Layer

theorem Options.value_ofLayer (layer : Layer) (a : Attribute) :
    (Options.ofLayer layer).value a =
      ((layer.last? a.key).map a.taken).getD (Options.value {} a) := by
  have run : ∀ options : Options,
      (layer.foldl (fun options e => options.set (normalizeKey e.1) e.2) options).value a =
        ((layer.last? a.key).map a.taken).getD (options.value a) := by
    induction layer with
    | nil => exact fun options => rfl
    | cons e layer ih =>
        intro options
        rw [List.foldl_cons, ih, Options.value_set, Layer.last?_cons]
        cases Layer.last? layer a.key with
        | some value => rfl
        | none => by_cases named : normalizeKey e.1 = a.key <;> simp [named]
  exact run {}

/-! ### Merging -/

def Layer.IsFlat (layer : Layer) : Prop := ∀ e ∈ layer, ∀ entries, e.2 ≠ .mapping entries

structure Layer.IsMerged (layer : Layer) : Prop where
  normal : ∀ e ∈ layer, normalizeKey e.1 = e.1
  distinct : (layer.map (·.1)).Nodup

theorem mergeEntry_cons (first : String × Value) (merged : Layer) (key : String) (value : Value) :
    (first.1 = key ∧ ∃ joined, mergeEntry (first :: merged) key value = (key, joined) :: merged ∧
      ((∀ entries, value ≠ .mapping entries) → joined = value)) ∨
    (first.1 ≠ key ∧
      mergeEntry (first :: merged) key value = first :: mergeEntry merged key value) := by
  obtain ⟨k, old⟩ := first
  by_cases known : k = key
  · left
    have same : (k == key) = true := by simpa using known
    refine ⟨known, ?_⟩
    conv in mergeEntry _ _ _ => unfold mergeEntry
    rw [if_pos same, known]
    refine ⟨_, rfl, ?_⟩
    intro flat
    split
    · exact absurd rfl (flat _)
    · rfl
  · right
    have unlike : ¬(k == key) = true := by simpa using known
    refine ⟨known, ?_⟩
    conv_lhs => unfold mergeEntry
    rw [if_neg unlike]

theorem keys_mergeEntry (merged : Layer) (key : String) (value : Value) :
    (mergeEntry merged key value).map (·.1) =
      if key ∈ merged.map (·.1) then merged.map (·.1) else merged.map (·.1) ++ [key] := by
  induction merged with
  | nil => rfl
  | cons first merged ih =>
      rcases mergeEntry_cons first merged key value with
        ⟨known, joined, same, _⟩ | ⟨other, same⟩
      · rw [same]
        simp [known]
      · have unlike : key ≠ first.1 := fun equal => other equal.symm
        rw [same, List.map_cons, ih]
        by_cases later : key ∈ merged.map (·.1) <;> simp [later, unlike]

theorem Layer.IsMerged.mergeEntry {merged : Layer} (given : merged.IsMerged) {key : String}
    (fixed : normalizeKey key = key) (value : Value) :
    (Grammar.mergeEntry merged key value).IsMerged where
  normal := by
    intro e listed
    have named : e.1 ∈ (Grammar.mergeEntry merged key value).map (·.1) :=
      List.mem_map_of_mem listed
    have among : e.1 ∈ merged.map (·.1) ∨ e.1 = key := by
      rw [keys_mergeEntry] at named
      split at named
      · exact .inl named
      · simpa using named
    rcases among with old | same
    · obtain ⟨other, member, same⟩ := List.mem_map.mp old
      rw [← same]
      exact given.normal other member
    · rw [same]
      exact fixed
  distinct := by
    rw [keys_mergeEntry]
    split
    · exact given.distinct
    · rename_i new
      have apart : (merged.map (·.1)).Disjoint [key] := List.disjoint_singleton.mpr new
      exact given.distinct.append (List.nodup_singleton key) apart

theorem last?_mergeEntry {merged : Layer} (given : merged.IsMerged) {key : String}
    (fixed : normalizeKey key = key) {value : Value} (flat : ∀ entries, value ≠ .mapping entries)
    (other : String) :
    (mergeEntry merged key value).last? other =
      if key = other then some value else merged.last? other := by
  induction merged with
  | nil =>
      rw [mergeEntry, Layer.last?_cons, fixed]
      rfl
  | cons first merged ih =>
      have distinct := given.distinct
      rw [List.map_cons, List.nodup_cons] at distinct
      have rest : Layer.IsMerged merged :=
        ⟨fun e listed => given.normal e (List.mem_cons_of_mem _ listed), distinct.2⟩
      have own : normalizeKey first.1 = first.1 := given.normal first List.mem_cons_self
      rcases mergeEntry_cons first merged key value with
        ⟨known, joined, same, taken⟩ | ⟨unlike, same⟩
      · rw [same, taken flat, Layer.last?_cons, Layer.last?_cons, own, known, fixed]
        by_cases asked : key = other
        · -- The merged layer has the key in its first place only.
          have none : Layer.last? merged other = Option.none := by
            refine Layer.last?_eq_none fun e listed equal => distinct.1 ?_
            rw [rest.normal e listed, ← asked, ← known] at equal
            exact List.mem_map.mpr ⟨e, listed, equal⟩
          rw [if_pos asked, if_pos asked, none, Option.none_or]
        · rw [if_neg asked, if_neg asked, if_neg asked]
      · rw [same, Layer.last?_cons, Layer.last?_cons, ih rest]
        by_cases asked : key = other
        · rw [if_pos asked, if_pos asked, Option.some_or]
        · rw [if_neg asked, if_neg asked]

theorem last?_mergeLayers {layers : List Layer} (flat : ∀ layer ∈ layers, layer.IsFlat)
    (key : String) : (mergeLayers layers).last? key = Layer.last? layers.flatten key := by
  have flat : Layer.IsFlat layers.flatten := by
    intro e listed
    obtain ⟨layer, member, listed⟩ := List.mem_flatten.mp listed
    exact flat layer member e listed
  have run : ∀ (layer merged : Layer), layer.IsFlat → merged.IsMerged →
      Layer.last? (layer.foldl (fun merged e => mergeEntry merged (normalizeKey e.1) e.2) merged)
        key = (layer.last? key).or (merged.last? key) := by
    intro layer
    induction layer with
    | nil => exact fun _ _ _ => rfl
    | cons e layer ih =>
        intro merged flat given
        have fixed := normalizeKey_normalizeKey e.1
        have later : Layer.IsFlat layer :=
          fun other listed => flat other (List.mem_cons_of_mem _ listed)
        rw [List.foldl_cons, ih _ later (given.mergeEntry fixed e.2),
          last?_mergeEntry given fixed (flat e List.mem_cons_self), Layer.last?_cons,
          Option.or_assoc]
        by_cases named : normalizeKey e.1 = key <;> simp [named]
  rw [mergeLayers, run layers.flatten [] flat ⟨by simp, by simp⟩]
  exact Option.or_none

/-! ### The base of a configuration's grammar -/

/-- The options that the single ones of a configuration go over: those of a known preset, in which
case no module counts; of the module in which an unknown one is looked for; of a module that is
named; or else those of the first preset, if there are no single ones, and none at all if there
are. -/
inductive IsBase (w : Workspace) (config : Config) : Layer → Prop
  | preset {name : String} {layer : Layer} (named : given? config.preset = some name)
      (known : (Text.lower name, layer) ∈ presets) : IsBase w config layer
  | presetModule {name : String} {layer : Layer} (named : given? config.preset = some name)
      (unknown : ∀ e ∈ presets, e.1 ≠ Text.lower name)
      (loaded : (loadModule w (.preset name) (presetModule name)).outcome = .ok layer) :
      IsBase w config layer
  | module {reference : String} {layer : Layer} (unnamed : given? config.preset = none)
      (named : given? config.grammar = some reference)
      (loaded : (loadModule w (.config reference) reference).outcome = .ok layer) :
      IsBase w config layer
  | first (unnamed : given? config.preset = none) (alone : given? config.grammar = none)
      (bare : config.parserOptions.getD [] = []) : IsBase w config angular
  | nothing (unnamed : given? config.preset = none) (alone : given? config.grammar = none)
      (single : config.parserOptions.getD [] ≠ []) : IsBase w config []

theorem IsBase.of_lower {w : Workspace} {config : Config} {name low : String} {layer : Layer}
    (named : given? config.preset = some name) (lower : Text.lower name = low)
    (known : (low, layer) ∈ presets) : IsBase w config layer :=
  .preset named (lower ▸ known)

theorem preset?_of_mem {name : String} {layer : Layer}
    (known : (Text.lower name, layer) ∈ presets) : preset? name = some layer := by
  have each : ∀ e ∈ presets, presets.lookup e.1 = some e.2 := by
    simp only [presets, List.forall_mem_cons]
    refine ⟨rfl, rfl, rfl, rfl, rfl, rfl, rfl, rfl, ?_⟩
    exact List.forall_mem_nil _
  exact each _ known

theorem preset?_eq_none {name : String} (unknown : ∀ e ∈ presets, e.1 ≠ Text.lower name) :
    preset? name = none := by
  rw [preset?, List.lookup_eq_none_iff]
  intro e listed
  exact bne_iff_ne.mpr (unknown e listed).symm

theorem IsBase.loads {w : Workspace} {config : Config} {base : Layer}
    (found : IsBase w config base) : (loadBase w config).outcome = .ok base := by
  unfold loadBase
  cases found with
  | preset named known =>
      rw [named]
      simp only [preset?_of_mem known]
      rfl
  | presetModule named unknown loaded =>
      rw [named]
      simp only [preset?_eq_none unknown]
      exact loaded
  | module unnamed named loaded =>
      rw [unnamed, named]
      exact loaded
  | first unnamed alone bare =>
      rw [unnamed, alone, bare]
      rfl
  | nothing unnamed alone single =>
      rw [unnamed, alone]
      have more : (config.parserOptions.getD []).isEmpty = false := by
        simpa using single
      simp only [more]
      rfl

/-! ### Single options over a base -/

def isKnown (e : String × Value) : Bool := Attribute.all.any fun a => a.key == normalizeKey e.1

theorem isKnown_of_named {e : String × Value} {a : Attribute} (named : normalizeKey e.1 = a.key) :
    isKnown e = true :=
  List.any_eq_true.mpr ⟨a, a.mem_all, beq_iff_eq.mpr named.symm⟩

theorem flat_pair {base own : Layer} (flat : base.IsFlat) (ownFlat : own.IsFlat) :
    ∀ layer ∈ [base, own], layer.IsFlat := by
  intro layer listed
  rcases List.mem_pair.mp listed with rfl | rfl
  · exact flat
  · exact ownFlat

theorem value_mergeLayers {base own : Layer} (flat : base.IsFlat) (ownFlat : own.IsFlat)
    (a : Attribute) : (Options.ofLayer (mergeLayers [base, own])).value a =
      match own.last? a.key with
        | some value => a.taken value
        | none => match base.last? a.key with
          | some value => a.taken value
          | none => Options.value {} a := by
  have both : Layer.last? [base, own].flatten a.key =
      (own.last? a.key).or (base.last? a.key) := by
    rw [List.flatten_cons, List.flatten_cons, List.flatten_nil, List.append_nil,
      Layer.last?_append]
  rw [Options.value_ofLayer, last?_mergeLayers (flat_pair flat ownFlat), both]
  cases own.last? a.key with
  | some value => rfl
  | none => cases base.last? a.key <;> rfl

theorem mergeLayers_filter_isKnown {base own : Layer} (flat : base.IsFlat) (ownFlat : own.IsFlat) :
    Options.ofLayer (mergeLayers [base, own]) =
      .ofLayer (mergeLayers [base.filter isKnown, own.filter isKnown]) := by
  have flat' : Layer.IsFlat (base.filter isKnown) :=
    fun e listed => flat e (List.mem_of_mem_filter listed)
  have ownFlat' : Layer.IsFlat (own.filter isKnown) :=
    fun e listed => ownFlat e (List.mem_of_mem_filter listed)
  apply Options.ext_value
  intro a
  rw [value_mergeLayers flat ownFlat, value_mergeLayers flat' ownFlat',
    Layer.last?_filter base fun _ => isKnown_of_named,
    Layer.last?_filter own fun _ => isKnown_of_named]

end Grammar

open Grammar Sample

def Sample.reworded : Config :=
  { preset := some "ESLint"
    parserMapping := some [(.text "note_keywords", .text "TODO"),
      (.text "issuePrefixes", .text "#"), (.text "noteKeywords", .text "BREAKING, NOTE,")] }

end ReleaseAdvisor
