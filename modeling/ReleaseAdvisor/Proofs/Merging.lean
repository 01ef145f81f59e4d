import ReleaseAdvisor.Proofs.Layers

/-!
Layers merged into one. What stands under a key afterwards is told by the values that were written
under it, in any layer and spelling: the last of them, or, if that is a mapping, the union of the
mappings that were written in one run up to it.
-/

namespace ReleaseAdvisor.Grammar

/-! ### Values written under one key -/

def unite (first : Entries) (others : List Entries) : Entries := others.foldl Entries.putAll first

theorem get?_unite (first : Entries) (others : List Entries) (name : String) :
    (unite first others).get? (.text name) =
      (Entries.last? others.flatten name).or (first.get? (.text name)) := by
  induction others generalizing first with
  | nil => rfl
  | cons entries others ih =>
      rw [List.flatten_cons, Entries.last?_append, Option.or_assoc, ← Entries.get?_putAll]
      exact ih (first.putAll entries)

/-- What values come to that are written one after another under one key: the last of them if that
is no mapping, and else the union of the run of mappings that ends with it, which nothing but the
start or a value that is no mapping comes before. -/
inductive ComesTo : List Value → Value → Prop
  | last (earlier : List Value) {value : Value} (plain : ∀ entries, value ≠ .mapping entries) :
      ComesTo (earlier ++ [value]) value
  | run {earlier : List Value} (ended : ∀ entries, earlier.getLast? ≠ some (.mapping entries))
      (first : Entries) (others : List Entries) :
      ComesTo (earlier ++ .mapping first :: others.map .mapping) (.mapping (unite first others))

def joined (old : Option Value) (value : Value) : Value :=
  match old, value with
  | some (.mapping es), .mapping fs => .mapping (Entries.putAll es fs)
  | _, value => value

def joinedFrom (old : Option Value) (values : List Value) : Option Value :=
  values.foldl (fun old value => some (joined old value)) old

theorem joined_of_plain (old : Option Value) {value : Value}
    (plain : ∀ entries, value ≠ .mapping entries) : joined old value = value := by
  unfold joined
  split
  · exact absurd rfl (plain _)
  · rfl

theorem joined_mapping {old : Option Value} (plain : ∀ entries, old ≠ some (.mapping entries))
    (entries : Entries) : joined old (.mapping entries) = .mapping entries := by
  unfold joined
  split
  · exact absurd rfl (plain _)
  · rfl

theorem joinedFrom_append (old : Option Value) (values : List Value) (value : Value) :
    joinedFrom old (values ++ [value]) = some (joined (joinedFrom old values) value) := by
  rw [joinedFrom, List.foldl_append]
  rfl

theorem joinedFrom_eq_none_iff {values : List Value} :
    joinedFrom none values = none ↔ values = [] := by
  cases values using List.reverseRecOn with
  | nil => simp [joinedFrom]
  | append_singleton earlier last => simp [joinedFrom_append]

theorem exists_joined_mapping (old : Option Value) (entries : Entries) :
    ∃ es, joined old (.mapping entries) = .mapping es := by
  unfold joined
  split
  · exact ⟨_, rfl⟩
  · exact ⟨entries, rfl⟩

theorem exists_joinedFrom_mapping_iff {values : List Value} :
    (∃ es, joinedFrom none values = some (.mapping es)) ↔
      ∃ es, values.getLast? = some (.mapping es) := by
  cases values using List.reverseRecOn with
  | nil => simp [joinedFrom]
  | append_singleton earlier last =>
      rw [joinedFrom_append, List.getLast?_concat]
      simp only [Option.some.injEq]
      constructor
      · rintro ⟨es, same⟩
        by_contra plain
        rw [joined_of_plain _ (not_exists.mp plain)] at same
        exact plain ⟨es, same⟩
      · rintro ⟨es, rfl⟩
        exact exists_joined_mapping _ es

theorem joinedFrom_run (first : Entries) (others : List Entries) :
    joinedFrom (some (.mapping first)) (others.map .mapping) =
      some (.mapping (unite first others)) := by
  induction others generalizing first with
  | nil => rfl
  | cons entries others ih => exact ih (Entries.putAll first entries)

theorem joinedFrom_eq_some_iff {values : List Value} {value : Value} :
    joinedFrom none values = some value ↔ ComesTo values value := by
  constructor
  · intro found
    induction values using List.reverseRecOn generalizing value with
    | nil => cases found
    | append_singleton earlier last ih =>
        rw [joinedFrom_append, Option.some.injEq] at found
        subst found
        -- A mapping at the end counts with the values before it, as far as they end in mappings.
        by_cases plain : ∀ entries, last ≠ .mapping entries
        · rw [joined_of_plain _ plain]
          exact .last earlier plain
        simp only [not_forall, not_not] at plain
        obtain ⟨entries, rfl⟩ := plain
        by_cases goes : ∃ es, earlier.getLast? = some (.mapping es)
        · obtain ⟨es, before⟩ := exists_joinedFrom_mapping_iff.mpr goes
          rw [before]
          cases ih before with
          | last _ plain => exact absurd rfl (plain es)
          | run ended first others =>
              have longer := ComesTo.run ended first (others ++ [entries])
              rw [List.map_append, ← List.cons_append, ← List.append_assoc, unite,
                List.foldl_append] at longer
              exact longer
        · have ended := not_exists.mp goes
          rw [joined_mapping (not_exists.mp (mt exists_joinedFrom_mapping_iff.mp goes))]
          exact .run ended entries []
  · intro comes
    cases comes with
    | last earlier plain => rw [joinedFrom_append, joined_of_plain _ plain]
    | @run earlier ended first others =>
        rw [joinedFrom, List.foldl_append, List.foldl_cons]
        change joinedFrom (some (joined (joinedFrom none earlier) _)) _ = _
        have fresh := mt exists_joinedFrom_mapping_iff.mp (not_exists.mpr ended)
        rw [joined_mapping (not_exists.mp fresh), joinedFrom_run]

/-! ### Merging -/

def writtenUnder (key : String) (layer : Layer) : List Value :=
  (layer.filter fun e => normalizeKey e.1 == key).map (·.2)

def writtenKeys (layer : Layer) : List String := layer.map fun e => normalizeKey e.1

theorem writtenUnder_cons (key : String) (e : String × Value) (layer : Layer) :
    writtenUnder key (e :: layer) =
      if normalizeKey e.1 = key then e.2 :: writtenUnder key layer else writtenUnder key layer := by
  by_cases named : normalizeKey e.1 = key <;> simp [writtenUnder, named]

theorem lookup_cons (first : String × Value) (merged : Layer) (key : String) :
    List.lookup key (first :: merged) =
      if first.1 = key then some first.2 else List.lookup key merged := by
  obtain ⟨k, value⟩ := first
  by_cases named : k = key
  · rw [if_pos named, named, List.lookup_cons_self]
  · have unlike : (key == k) = false := beq_eq_false_iff_ne.mpr (Ne.symm named)
    rw [if_neg named, List.lookup_cons, unlike]

theorem mergeEntry_known (old value : Value) (merged : Layer) (key : String) :
    mergeEntry ((key, old) :: merged) key value = (key, joined (some old) value) :: merged := by
  conv_lhs => unfold mergeEntry
  rw [if_pos (beq_self_eq_true key)]
  cases old with
  | mapping es => cases value <;> rfl
  | _ => rfl

theorem mergeEntry_other {first : String × Value} {key : String} (other : first.1 ≠ key)
    (merged : Layer) (value : Value) :
    mergeEntry (first :: merged) key value = first :: mergeEntry merged key value := by
  rcases mergeEntry_cons first merged key value with ⟨known, _⟩ | ⟨_, same⟩
  · exact absurd known other
  · exact same

theorem lookup_mergeEntry (merged : Layer) (key : String) (value : Value) (other : String) :
    List.lookup other (mergeEntry merged key value) =
      if key = other then some (joined (List.lookup other merged) value)
      else List.lookup other merged := by
  induction merged with
  | nil => exact lookup_cons (key, value) [] other
  | cons first merged ih =>
      by_cases known : first.1 = key
      · obtain ⟨_, old⟩ := first
        subst known
        rw [mergeEntry_known, lookup_cons, lookup_cons]
        split
        · rfl
        · rfl
      · rw [mergeEntry_other known, lookup_cons, lookup_cons, ih]
        by_cases named : first.1 = other
        · have unlike : key ≠ other := fun same => known (named.trans same.symm)
          rw [if_pos named, if_neg unlike, if_pos named]
        · rw [if_neg named, if_neg named]

theorem lookup_foldl (layer merged : Layer) (key : String) :
    List.lookup key
        (layer.foldl (fun merged e => mergeEntry merged (normalizeKey e.1) e.2) merged) =
      joinedFrom (List.lookup key merged) (writtenUnder key layer) := by
  induction layer generalizing merged with
  | nil => rfl
  | cons e layer ih =>
      rw [List.foldl_cons, ih, lookup_mergeEntry, writtenUnder_cons]
      by_cases named : normalizeKey e.1 = key
      · rw [if_pos named, if_pos named]
        rfl
      · rw [if_neg named, if_neg named]

/-- The keys are those that were written, in the order in which each of them was first written. -/
structure InFirstOrder (keys written : List String) : Prop where
  mem : ∀ key, key ∈ keys ↔ key ∈ written
  ordered : keys.Pairwise fun a b => written.idxOf a < written.idxOf b

theorem InFirstOrder.write {keys written : List String} (inOrder : InFirstOrder keys written)
    (key : String) :
    InFirstOrder (if key ∈ keys then keys else keys ++ [key]) (written ++ [key]) := by
  have kept : keys.Pairwise fun a b =>
      (written ++ [key]).idxOf a < (written ++ [key]).idxOf b := by
    refine inOrder.ordered.imp_of_mem fun {a b} first second before => ?_
    rwa [List.idxOf_append_of_mem ((inOrder.mem a).mp first),
      List.idxOf_append_of_mem ((inOrder.mem b).mp second)]
  split
  · rename_i known
    refine ⟨fun k => ?_, kept⟩
    rw [List.mem_append, ← inOrder.mem, List.mem_singleton]
    exact ⟨.inl, fun either => either.elim id fun same => same ▸ known⟩
  · rename_i new
    refine ⟨fun k => ?_, List.pairwise_append.mpr ⟨kept, List.pairwise_singleton _ _, ?_⟩⟩
    · rw [List.mem_append, List.mem_append, inOrder.mem]
    · intro a first b second
      rw [List.mem_singleton] at second
      subst second
      have listed := (inOrder.mem a).mp first
      have unwritten : b ∉ written := fun old => new ((inOrder.mem b).mpr old)
      rw [List.idxOf_append_of_mem listed, List.idxOf_append_of_notMem unwritten]
      exact Nat.lt_add_right _ (List.idxOf_lt_length_of_mem listed)

theorem inFirstOrder_foldl (layer merged : Layer) {written : List String}
    (inOrder : InFirstOrder (merged.map (·.1)) written) :
    InFirstOrder
      ((layer.foldl (fun merged e => mergeEntry merged (normalizeKey e.1) e.2) merged).map (·.1))
      (written ++ writtenKeys layer) := by
  induction layer generalizing merged written with
  | nil =>
      rw [writtenKeys, List.map_nil, List.append_nil]
      exact inOrder
  | cons e layer ih =>
      have next := inOrder.write (normalizeKey e.1)
      rw [← keys_mergeEntry merged (normalizeKey e.1) e.2] at next
      have rest := ih _ next
      rwa [List.append_assoc, List.singleton_append] at rest

/-- Layers merge key by key, in whatever spelling and layer a key is written. A key is there just if
something is written under it; it has the last value written, or, if that is a mapping, the union of
the run of mappings up to it, in which later entries win. The keys stand in the order in which they
are first written. -/
theorem mergeLayers_written (layers : List Layer) :
    (∀ key, List.lookup key (mergeLayers layers) = none ↔ writtenUnder key layers.flatten = []) ∧
    (∀ key value, List.lookup key (mergeLayers layers) = some value ↔
      ComesTo (writtenUnder key layers.flatten) value) ∧
    (∀ first others name, (unite first others).get? (.text name) =
      (Entries.last? others.flatten name).or (first.get? (.text name))) ∧
    InFirstOrder ((mergeLayers layers).map (·.1)) (writtenKeys layers.flatten) := by
  have found : ∀ key, List.lookup key (mergeLayers layers) =
      joinedFrom none (writtenUnder key layers.flatten) := lookup_foldl layers.flatten []
  have start : InFirstOrder [] [] := ⟨fun _ => Iff.rfl, List.Pairwise.nil⟩
  refine ⟨fun key => ?_, fun key value => ?_, get?_unite, ?_⟩
  · rw [found, joinedFrom_eq_none_iff]
  · rw [found, joinedFrom_eq_some_iff]
  · exact inFirstOrder_foldl layers.flatten [] start

end ReleaseAdvisor.Grammar
