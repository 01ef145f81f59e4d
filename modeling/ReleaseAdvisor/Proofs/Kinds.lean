import ReleaseAdvisor.Grammar.Source
import ReleaseAdvisor.Proofs.Key
import ReleaseAdvisor.Proofs.Matching

/-!
Options of the kinds they are meant to have. Layers merge into options of the right kinds if all
that they write is of the right kind under its normalized key.
-/

namespace ReleaseAdvisor.Grammar

/-- What an option is meant to be: a pattern, which may be missing, ready or written; a list of
texts, which may be one text; a mark, which may be missing; or nothing in particular. -/
inductive Kind where
  | pattern
  | listing
  | mark
  | free
  deriving DecidableEq

inductive IsPattern : Value → Prop
  | unset : IsPattern .null
  | ready (p : Regex) : IsPattern (.pattern p)
  | written (source : String) : IsPattern (.text source)

instance decidableIsPattern : (value : Value) → Decidable (IsPattern value)
  | .null => isTrue .unset
  | .pattern p => isTrue (.ready p)
  | .text source => isTrue (.written source)
  | .bool _ | .int _ | .double _ | .list _ | .mapping _ | .moment _ => isFalse nofun

inductive IsListing : Value → Prop
  | written (s : String) : IsListing (.text s)
  | items {items : List Value} (each : ∀ item ∈ items, ∃ s, item = .text s) :
      IsListing (.list items)

instance decidableEqText (value : Value) (s : String) : Decidable (value = .text s) :=
  match value with
  | .text t => decidable_of_iff (t = s) (by simp)
  | .null | .pattern _ | .bool _ | .int _ | .double _ | .list _ | .mapping _ | .moment _ =>
    isFalse nofun

instance decidableEqNull : (value : Value) → Decidable (value = .null)
  | .null => isTrue rfl
  | .text _ | .pattern _ | .bool _ | .int _ | .double _ | .list _ | .mapping _ | .moment _ =>
    isFalse nofun

instance decidableIsText : (value : Value) → Decidable (∃ s, value = .text s)
  | .text s => isTrue ⟨s, rfl⟩
  | .null | .pattern _ | .bool _ | .int _ | .double _ | .list _ | .mapping _ | .moment _ =>
    isFalse nofun

instance decidableIsListing : (value : Value) → Decidable (IsListing value)
  | .text s => isTrue (.written s)
  | .list items =>
    if each : ∀ item ∈ items, ∃ s, item = .text s then isTrue (.items each)
    else isFalse fun | .items other => each other
  | .null | .pattern _ | .bool _ | .int _ | .double _ | .mapping _ | .moment _ => isFalse nofun

instance decidableIsGroup : (value : Value) → Decidable (IsGroup value)
  | .null => isTrue (.inl rfl)
  | .text s => isTrue (.inr ⟨s, rfl⟩)
  | .pattern _ | .bool _ | .int _ | .double _ | .list _ | .mapping _ | .moment _ =>
    isFalse fun group => group.elim nofun nofun

def Kind.Holds : Kind → Value → Prop
  | .pattern, value => IsPattern value
  | .listing, value => IsListing value
  | .mark, value => IsGroup value
  | .free, _ => True

instance : (kind : Kind) → (value : Value) → Decidable (kind.Holds value)
  | .pattern, value => inferInstanceAs (Decidable (IsPattern value))
  | .listing, value => inferInstanceAs (Decidable (IsListing value))
  | .mark, value => inferInstanceAs (Decidable (IsGroup value))
  | .free, _ => isTrue trivial

def kindOf (key : String) : Kind :=
  match key with
  | "header_pattern" | "breaking_header_pattern" | "merge_pattern" | "revert_pattern"
  | "field_pattern" => .pattern
  | "header_correspondence" | "merge_correspondence" | "revert_correspondence"
  | "note_keywords" => .listing
  | "comment_char" => .mark
  | _ => .free

def Layer.IsDocumented (layer : Layer) : Prop := ∀ e ∈ layer, (kindOf (normalizeKey e.1)).Holds e.2

instance (layer : Layer) : Decidable layer.IsDocumented :=
  inferInstanceAs (Decidable (∀ _ ∈ _, _))

structure Options.IsTyped (options : Options) : Prop where
  headerPattern : IsPattern options.headerPattern
  headerNames : ∃ names, options.headerCorrespondence = texts names
  breakingHeaderPattern : IsPattern options.breakingHeaderPattern
  mergePattern : IsPattern options.mergePattern
  mergeNames : ∃ names, options.mergeCorrespondence = texts names
  revertPattern : IsPattern options.revertPattern
  revertNames : ∃ names, options.revertCorrespondence = texts names
  noteKeywords : ∃ names, options.noteKeywords = texts names
  fieldPattern : IsPattern options.fieldPattern
  comment : IsGroup options.commentChar

namespace Options

theorem isTyped_default : ({} : Options).IsTyped where
  headerPattern := .ready _
  headerNames := ⟨_, rfl⟩
  breakingHeaderPattern := .unset
  mergePattern := .unset
  mergeNames := ⟨[], rfl⟩
  revertPattern := .ready _
  revertNames := ⟨_, rfl⟩
  noteKeywords := ⟨_, rfl⟩
  fieldPattern := .written _
  comment := .inl rfl

theorem exists_names {items : List Value} (each : ∀ item ∈ items, ∃ s, item = .text s) :
    ∃ names : List String, names.map Value.text = items := by
  induction items with
  | nil => exact ⟨[], rfl⟩
  | cons item items ih =>
      obtain ⟨s, rfl⟩ := each item List.mem_cons_self
      obtain ⟨names, rfl⟩ := ih fun other listed => each other (List.mem_cons_of_mem _ listed)
      exact ⟨s :: names, rfl⟩

theorem listOption_eq_texts {value : Value} (listing : IsListing value) :
    ∃ names, listOption value = texts names := by
  cases listing with
  | written s => exact ⟨commaParts s, rfl⟩
  | items each =>
      obtain ⟨names, rfl⟩ := exists_names each
      exact ⟨names, rfl⟩

theorem IsTyped.set {options : Options} (typed : options.IsTyped) {key : String} {value : Value}
    (kind : (kindOf key).Holds value) : (options.set key value).IsTyped := by
  unfold Options.set
  split
  · exact { typed with headerPattern := kind }
  · exact { typed with headerNames := listOption_eq_texts kind }
  · exact { typed with breakingHeaderPattern := kind }
  · exact { typed with mergePattern := kind }
  · exact { typed with mergeNames := listOption_eq_texts kind }
  · exact { typed with revertPattern := kind }
  · exact { typed with revertNames := listOption_eq_texts kind }
  · exact { typed with noteKeywords := listOption_eq_texts kind }
  · exact { typed with fieldPattern := kind }
  · exact { typed with comment := kind }
  · exact typed

theorem isTyped_ofLayer {layer : Layer} (documented : layer.IsDocumented) :
    (Options.ofLayer layer).IsTyped :=
  List.foldlRecOn layer _ isTyped_default fun _ typed e listed => typed.set (documented e listed)

end Options

theorem Kind.Holds.of_mapping {kind : Kind} {entries : Entries}
    (holds : kind.Holds (.mapping entries)) (value : Value) : kind.Holds value := by
  cases kind with
  | pattern => cases holds
  | listing => cases holds
  | mark =>
      rcases holds with none | ⟨s, text⟩
      · cases none
      · cases text
  | free => trivial

def Layer.IsNormal (layer : Layer) : Prop :=
  ∀ e ∈ layer, normalizeKey e.1 = e.1 ∧ (kindOf e.1).Holds e.2

theorem isNormal_mergeEntry {merged : Layer} (normal : merged.IsNormal) {key : String}
    (fixed : normalizeKey key = key) {value : Value} (holds : (kindOf key).Holds value) :
    (mergeEntry merged key value).IsNormal := by
  induction merged with
  | nil =>
      intro e listed
      rw [List.mem_singleton.mp listed]
      exact ⟨fixed, holds⟩
  | cons first rest ih =>
      obtain ⟨k, old⟩ := first
      have later := ih fun other listed => normal other (List.mem_cons_of_mem _ listed)
      unfold mergeEntry
      split
      · rename_i same
        rw [beq_iff_eq] at same
        subst same
        intro e listed
        rcases List.mem_cons.mp listed with rfl | member
        · refine ⟨fixed, ?_⟩
          dsimp only
          split
          · exact holds.of_mapping _
          · exact holds
        · exact normal e (List.mem_cons_of_mem _ member)
      · intro e listed
        rcases List.mem_cons.mp listed with rfl | member
        · exact normal _ List.mem_cons_self
        · exact later e member

theorem isDocumented_mergeLayers {layers : List Layer}
    (documented : ∀ layer ∈ layers, layer.IsDocumented) :
    (mergeLayers layers).IsDocumented := by
  have normal : (mergeLayers layers).IsNormal := by
    refine List.foldlRecOn layers.flatten _ (fun e listed => absurd listed (by simp)) ?_
    intro merged normal e listed
    obtain ⟨layer, member, listed⟩ := List.mem_flatten.mp listed
    exact isNormal_mergeEntry normal (normalizeKey_normalizeKey e.1)
      (documented layer member e listed)
  intro e listed
  obtain ⟨fixed, holds⟩ := normal e listed
  rw [fixed]
  exact holds

/-! ### Known grammars -/

theorem isDocumented_nil : Layer.IsDocumented [] := by decide

theorem isDocumented_angular : angular.IsDocumented := by decide +kernel

theorem isDocumented_of_preset? {name : String} {layer : Layer}
    (known : preset? name = some layer) : layer.IsDocumented := by
  have all : ∀ e ∈ presets, e.2.IsDocumented := by decide +kernel
  obtain ⟨before, after, listed, _⟩ := List.lookup_eq_some_iff.mp known
  refine all (Text.lower name, layer) ?_
  rw [listed]
  exact List.mem_append_right _ List.mem_cons_self

end ReleaseAdvisor.Grammar
