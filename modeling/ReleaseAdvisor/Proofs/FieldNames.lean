import ReleaseAdvisor.Proofs.Reserved

/-!
Which fields a commit has. The reserved names and those of the header are always there. A merge line
adds its own only if it is there, and only as far as its pattern has groups for them; any other
field bears the name of a group or of a field line.
-/

namespace ReleaseAdvisor

open Outcome

/-! ### Names in a mapping -/

namespace Grammar

theorem IsGroup.same_iff {name : Value} (given : IsGroup name) {v : Value} :
    v.same name = true ↔ v = name := by
  rcases given with rfl | ⟨s, rfl⟩
  · cases v <;> simp [Value.same, Value.sameScalar, Value.wholeNumber?]
  · exact Value.same_text

theorem IsGroup.iff_same {name : Value} (given : IsGroup name) {v : Value} :
    name.same v = true ↔ v = name := by
  rcases given with rfl | ⟨s, rfl⟩
  · cases v <;> simp [Value.same, Value.sameScalar, Value.wholeNumber?]
  · exact Value.text_same

end Grammar

open Grammar (IsGroup)

namespace Entries

def keys (entries : Entries) : List Value := entries.map Prod.fst

theorem keys_append (first second : Entries) :
    keys (first ++ second) = keys first ++ keys second := List.map_append

def HasNames (entries : Entries) : Prop := ∀ key ∈ entries.keys, IsGroup key

theorem hasNames_append {first second : Entries} :
    HasNames (first ++ second) ↔ first.HasNames ∧ second.HasNames := by
  rw [HasNames, keys_append, List.forall_mem_append]
  rfl

theorem mem_keys_put {key value k : Value} {entries : Entries} (named : IsGroup key) :
    k ∈ keys (put key value entries) ↔ k ∈ keys entries ∨ k = key := by
  induction entries with
  | nil => simp [keys, put]
  | cons e entries ih =>
      rw [put]
      split
      · rename_i known
        have same := named.same_iff.mp known
        change k ∈ e.1 :: keys entries ↔ k ∈ e.1 :: keys entries ∨ k = key
        rw [same, List.mem_cons]
        tauto
      · change k ∈ e.1 :: keys (put key value entries) ↔ k ∈ e.1 :: keys entries ∨ k = key
        rw [List.mem_cons, List.mem_cons, ih, or_assoc]

theorem mem_keys_putAll {k : Value} {entries more : Entries} (named : more.HasNames) :
    k ∈ keys (putAll entries more) ↔ k ∈ keys entries ∨ k ∈ keys more := by
  induction more generalizing entries with
  | nil => simp [putAll, keys]
  | cons e more ih =>
      obtain ⟨first, later⟩ := List.forall_mem_cons.mp named
      change k ∈ keys (putAll (entries.put e.1 e.2) more) ↔ _ ∨ k ∈ e.1 :: keys more
      rw [ih later, mem_keys_put first, List.mem_cons, or_assoc]

theorem isSome_get? {entries : Entries} (named : entries.HasNames) (key : Value) :
    (entries.get? key).isSome = true ↔ key ∈ entries.keys := by
  rw [get?, Option.isSome_map, List.find?_isSome, keys, List.mem_map]
  constructor
  · rintro ⟨e, listed, same⟩
    exact ⟨e, listed, ((named _ (List.mem_map_of_mem listed)).iff_same.mp same).symm⟩
  · rintro ⟨e, listed, rfl⟩
    exact ⟨e, listed, (named _ (List.mem_map_of_mem listed)).same_iff.mpr rfl⟩

theorem keys_zip (names : List String) (values : List Value) :
    keys ((names.map .text).zip values) = (names.take values.length).map .text := by
  induction names generalizing values with
  | nil => simp [keys]
  | cons name names ih =>
      cases values with
      | nil => rfl
      | cons value values => exact congrArg (Value.text name :: ·) (ih values)

end Entries

open Entries

theorem Segments.marks {α : Type} (mark? : Line → Option α) (lines : List Line) :
    (segments mark? lines).2.map Prod.fst = lines.filterMap mark? := by
  induction lines with
  | nil => rfl
  | cons line lines ih =>
      rw [segments, List.filterMap_cons, ← ih]
      cases mark? line <;> rfl

/-! ### Names that a match gives -/

/-- The names of the fields of a match: those of the groups, or else the given ones, one for each
group. -/
def Regex.fieldNames (p : Regex) (names : List String) : List String :=
  if p.names.isEmpty then names.take p.groups else p.names.map Prod.fst

theorem Regex.length_of_match? {p : Regex} {text : List Char} {found : Regex.Found}
    (matched : p.match? text = some found) : found.length = p.groups := by
  obtain ⟨_, _, rfl⟩ := Option.map_eq_some_iff.mp matched
  simp

namespace Grammar

theorem keys_correspond {p : Regex} {found : Regex.Found} {names : List String} {entries : Entries}
    (groups : found.length = p.groups) (done : correspond p found (texts names) = .ok entries)
    (key : Value) : key ∈ entries.keys ↔ key ∈ (p.fieldNames names).map .text := by
  have start : key ∉ keys [] := List.not_mem_nil
  cases unnamed : p.names with
  | nil =>
      rw [correspond_unnamed unnamed] at done
      have listed := keys_zip names (found.map Value.ofGroup)
      have named : HasNames ((names.map Value.text).zip (found.map Value.ofGroup)) := by
        intro k member
        rw [listed] at member
        obtain ⟨name, _, rfl⟩ := List.mem_map.mp member
        exact .inr ⟨name, rfl⟩
      rw [← Except.ok.inj done, mem_keys_putAll named, or_iff_right start, listed,
        List.length_map, groups, Regex.fieldNames, unnamed]
      rfl
  | cons first later =>
      have whole : p.names.isEmpty = false := by rw [unnamed, List.isEmpty_cons]
      have named : HasNames (p.names.map fun pair =>
          (Value.text pair.1, Value.ofGroup (found[pair.2 - 1]?.join))) := by
        intro k member
        obtain ⟨e, listed, rfl⟩ := List.mem_map.mp member
        obtain ⟨pair, _, rfl⟩ := List.mem_map.mp listed
        exact .inr ⟨pair.1, rfl⟩
      rw [correspond, whole] at done
      rw [← Except.ok.inj done, mem_keys_putAll named, or_iff_right start, Regex.fieldNames, whole,
        keys, List.map_map]
      simp only [Bool.false_eq_true, if_false, List.map_map]
      rfl

theorem keys_fieldsOf {p : Option Regex} {text : List Char} {names : List String}
    {fields : Option Entries} (done : fieldsOf p text (texts names) = .ok fields) (key : Value) :
    key ∈ (fields.getD []).keys ↔ ∃ q, p = some q ∧ (q.match? text).isSome = true ∧
      key ∈ (q.fieldNames names).map .text := by
  cases p with
  | none =>
      cases done
      simp [keys]
  | some q =>
      cases matched : q.match? text with
      | none =>
          rw [fieldsOf, matched] at done
          cases done
          simp [keys, matched]
      | some found =>
          rw [fieldsOf, matched] at done
          obtain ⟨entries, named, rfl⟩ := map_eq_ok.mp done
          rw [Option.getD_some, keys_correspond (Regex.length_of_match? matched) named]
          simp [matched]

/-! ### Names of fields -/

def countedLines (g : Grammar) (message : List Char) : List Line :=
  trimLines ((Text.lines message).filter g.isCounted)

def hasMergeLine (g : Grammar) (message : List Char) : Bool :=
  (g.merge.bind fun p => p.match? (g.firstCounted message)).isSome

def linesFromHeader (g : Grammar) (message : List Char) : List Line :=
  (g.countedLines message).drop (if g.hasMergeLine message then 1 else 0)

/-- A commit has a field of the name: it is reserved, or known for the header; the merge line gives
it; a group of the header bears it; or a line after the header starts a field of that name. -/
inductive IsFieldName (g : Grammar) (message : List Char) (headerNames mergeNames : List String) :
    Value → Prop
  | reserved {name : String} (known : name ∈ reservedNames) :
      IsFieldName g message headerNames mergeNames (.text name)
  | header {name : String} (listed : name ∈ headerNames) :
      IsFieldName g message headerNames mergeNames (.text name)
  | merge {p : Regex} {name : String} (given : g.merge = some p)
      (matched : (p.match? (g.firstCounted message)).isSome = true)
      (listed : name ∈ p.fieldNames mergeNames) :
      IsFieldName g message headerNames mergeNames (.text name)
  | group {p : Regex} {name : String} (given : g.header = some p)
      (matched : (p.match? (firstLine (g.linesFromHeader message))).isSome = true)
      (listed : name ∈ p.names.map Prod.fst) :
      IsFieldName g message headerNames mergeNames (.text name)
  | line {line : Line} {name : Option (List Char)}
      (listed : line ∈ (g.linesFromHeader message).drop 1)
      (starts : g.fieldStart? line = some name) :
      IsFieldName g message headerNames mergeNames (.ofGroup name)

theorem keys_contentOf (g : Grammar) (lines : List Line) :
    (g.contentOf lines).fields.keys = (lines.filterMap g.fieldStart?).map Value.ofGroup := by
  rw [← Segments.marks, contentOf, keys]
  dsimp only
  rw [List.map_map, List.map_map]
  rfl

section Commit

variable {g : Grammar} {text : List Char} {parts : Parts} (found : g.FallsInto text parts)
  (typed : g.IsTyped)

include found typed

theorem FallsInto.merged_isSome : parts.merged.isSome = g.hasMergeLine text := by
  rw [isSome_of_fieldsOf found.merged, found.firstLine_eq typed]
  rfl

theorem FallsInto.linesFromHeader_eq :
    parts.header = firstLine (g.linesFromHeader text) ∧
      parts.rest = (g.linesFromHeader text).drop 1 := by
  have lines : (if parts.merged.isSome then parts.lines.drop 1 else parts.lines) =
      g.linesFromHeader text := by
    rw [linesFromHeader, countedLines, ← found.lines_eq typed, found.merged_isSome typed]
    split <;> rfl
  rw [Parts.header, Parts.rest, lines]
  exact ⟨rfl, rfl⟩

variable {headerNames mergeNames : List String} (header : g.headerNames = texts headerNames)
  (merge : g.mergeNames = texts mergeNames)

include header merge

theorem FallsInto.mem_keys_headEntries (key : Value) : key ∈ parts.headEntries.keys ↔
    key ∈ headerNames.map Value.text ∨
      (∃ p, g.merge = some p ∧ (p.match? (g.firstCounted text)).isSome = true ∧
        key ∈ (p.fieldNames mergeNames).map Value.text) ∨
      ∃ p, g.header = some p ∧ (p.match? (firstLine (g.linesFromHeader text))).isSome = true ∧
        key ∈ (p.fieldNames headerNames).map Value.text := by
  have merged := found.merged
  have headed := found.headed
  have names := found.names
  rw [merge, found.firstLine_eq typed] at merged
  rw [header, (found.linesFromHeader_eq typed).1] at headed
  rw [header] at names
  have known : keys (parts.names.map fun name => (name, Value.null)) =
      headerNames.map Value.text := by
    rw [← Except.ok.inj names, keys, List.map_map]
    exact List.map_id _
  rw [Parts.headEntries, keys_append, keys_append, List.mem_append, List.mem_append, or_assoc,
    known, keys_fieldsOf merged, keys_fieldsOf headed]

theorem FallsInto.hasNames : HasNames (parts.headEntries ++ (g.contentOf parts.rest).fields ++
    parts.reserved g) := by
  have texts {names : List String} {k : Value} (listed : k ∈ names.map Value.text) :
      IsGroup k := by
    obtain ⟨name, _, rfl⟩ := List.mem_map.mp listed
    exact .inr ⟨name, rfl⟩
  refine hasNames_append.mpr ⟨hasNames_append.mpr ⟨?_, ?_⟩, ?_⟩
  · intro k listed
    rcases (found.mem_keys_headEntries typed header merge k).mp listed with
      listed | ⟨_, _, _, listed⟩ | ⟨_, _, _, listed⟩
    all_goals exact texts listed
  · intro k listed
    rw [keys_contentOf] at listed
    obtain ⟨name, _, rfl⟩ := List.mem_map.mp listed
    exact isGroup_ofGroup name
  · intro k listed
    have reserved : k ∈ reservedNames.map Value.text := listed
    exact texts reserved

theorem FallsInto.isSome_get?_commit (hash key : Value) :
    ((parts.commit g hash).fields.get? key).isSome = true ↔
      (key ∈ parts.headEntries.keys ∨
        key ∈ ((g.linesFromHeader text).drop 1 |>.filterMap g.fieldStart?).map Value.ofGroup) ∨
      key ∈ reservedNames.map Value.text := by
  have named := found.hasNames typed header merge
  have all (k : Value) : k ∈ (parts.commit g hash).fields.keys ↔
      k ∈ keys (parts.headEntries ++ (g.contentOf parts.rest).fields ++ parts.reserved g) := by
    rw [Parts.commit, mem_keys_putAll named]
    exact or_iff_right List.not_mem_nil
  have whole : HasNames (parts.commit g hash).fields := fun k listed => named k ((all k).mp listed)
  rw [isSome_get? whole, all, keys_append, keys_append, List.mem_append, List.mem_append,
    keys_contentOf, (found.linesFromHeader_eq typed).2]
  rfl

theorem FallsInto.isSome_get?_iff (hash key : Value) :
    ((parts.commit g hash).fields.get? key).isSome = true ↔
      IsFieldName g text headerNames mergeNames key := by
  rw [found.isSome_get?_commit typed header merge,
    found.mem_keys_headEntries typed header merge]
  constructor
  · rintro (((listed | ⟨p, given, matched, listed⟩ | ⟨p, given, matched, listed⟩) | listed) |
      listed)
    · obtain ⟨name, member, rfl⟩ := List.mem_map.mp listed
      exact .header member
    · obtain ⟨name, member, rfl⟩ := List.mem_map.mp listed
      exact .merge given matched member
    · obtain ⟨name, member, rfl⟩ := List.mem_map.mp listed
      rw [Regex.fieldNames] at member
      split at member
      · exact .header (List.mem_of_mem_take member)
      · exact .group given matched member
    · obtain ⟨name, marked, rfl⟩ := List.mem_map.mp listed
      obtain ⟨line, listed, starts⟩ := List.mem_filterMap.mp marked
      exact .line listed starts
    · obtain ⟨name, member, rfl⟩ := List.mem_map.mp listed
      exact .reserved member
  · intro named
    cases named with
    | reserved known => exact .inr (List.mem_map_of_mem known)
    | header listed => exact .inl (.inl (.inl (List.mem_map_of_mem listed)))
    | merge given matched listed =>
        exact .inl (.inl (.inr (.inl ⟨_, given, matched, List.mem_map_of_mem listed⟩)))
    | @group p name given matched listed =>
        have whole : p.fieldNames headerNames = p.names.map Prod.fst := by
          refine if_neg fun none => ?_
          rw [List.isEmpty_iff.mp none] at listed
          cases listed
        exact .inl (.inl (.inr (.inr
          ⟨p, given, matched, List.mem_map_of_mem (whole ▸ listed)⟩)))
    | line listed starts =>
        have marked := List.mem_filterMap.mpr ⟨_, listed, starts⟩
        exact .inl (.inr (List.mem_map_of_mem marked))

end Commit

/-- A grammar whose options have the right kinds reads every message that is not blank. The commit
has a field of each reserved name and of each name that is known for the header. It has one of a
name for the merge line only where the merge pattern matches and gives a group that name, and every
other field bears the name of a group or of a field line. -/
theorem parse_fields {options : Options} (kinds : options.IsTyped) {g : Grammar}
    (ready : compile options = .ok g) (message : String) (hash : Value)
    (said : Text.blank message.toList = false) :
    ∃ headerNames mergeNames c, options.headerCorrespondence = texts headerNames ∧
      options.mergeCorrespondence = texts mergeNames ∧ g.parse message hash = .ok c ∧
      ∀ key, (c.fields.get? key).isSome = true ↔
        IsFieldName g message.toList headerNames mergeNames key := by
  have made := isMadeOf_of_compile ready
  have typed := isTyped_of_compile ready kinds.headerNames kinds.mergeNames kinds.revertNames
    kinds.comment
  obtain ⟨headerNames, header⟩ := kinds.headerNames
  obtain ⟨mergeNames, merge⟩ := kinds.mergeNames
  obtain ⟨c, read⟩ := parse_returns typed hash said
  obtain ⟨_, parts, found, rfl⟩ := parse_eq_ok.mp read
  refine ⟨headerNames, mergeNames, _, header, merge, read, fun key => ?_⟩
  exact found.isSome_get?_iff typed (made.headerNames.trans header) (made.mergeNames.trans merge)
    hash key

end Grammar

namespace Sample

def mergingOptions : Grammar.Options :=
  { mergePattern := .text "^Merge pull request #(\\d+) from (.*)$"
    mergeCorrespondence := Grammar.texts ["id", "source", "target"] }

def pullRequest : String := "Merge pull request #12 from a/b\nfeat: New call\n-reviewer-\nAda"

def newCall : String := "feat: New call"

end Sample

open Sample

namespace Grammar

theorem isTyped_mergingOptions : mergingOptions.IsTyped :=
  { Options.isTyped_default with
    mergePattern := .written _
    mergeNames := ⟨_, rfl⟩ }

theorem texts_injective {names others : List String} (same : texts names = texts others) :
    names = others :=
  List.map_injective_iff.mpr (fun _ _ equal => Value.text.inj equal) (Value.list.inj same)

/-- The field line and the two groups give fields, but the third name has no group. -/
theorem parse_fields_merged : mergingOptions.IsTyped ∧ Text.blank pullRequest.toList = false ∧
    ∃ g c, compile mergingOptions = .ok g ∧ g.parse pullRequest (.text "a1") = .ok c ∧
      (∀ name ∈ ["id", "source", "reviewer", "type"],
        (c.fields.get? (.text name)).isSome = true) ∧
      (c.fields.get? (.text "target")).isSome = false := by
  have kinds := isTyped_mergingOptions
  have said : Text.blank pullRequest.toList = false := by decide +kernel
  have made : ∃ g, compile mergingOptions = .ok g ∧
      (∃ p ∈ g.merge, (p.match? (g.firstCounted pullRequest.toList)).isSome = true ∧
        p.fieldNames ["id", "source", "target"] = ["id", "source"]) ∧
      (∀ p ∈ g.header, p.names = []) ∧
      ((g.linesFromHeader pullRequest.toList).drop 1).map g.fieldStart? =
        [some (some "reviewer".toList), none] := by
    decide +kernel
  obtain ⟨g, ready, ⟨p, given, matched, groups⟩, unnamed, marks⟩ := made
  obtain ⟨headerNames, mergeNames, c, header, merge, read, fields⟩ :=
    parse_fields kinds ready pullRequest (.text "a1") said
  obtain rfl : ["type", "scope", "subject"] = headerNames := texts_injective header
  obtain rfl : ["id", "source", "target"] = mergeNames := texts_injective merge
  refine ⟨kinds, said, g, c, ready, read, fun name listed => (fields _).mpr ?_, ?_⟩
  · simp only [List.mem_cons, List.not_mem_nil, or_false] at listed
    rcases listed with rfl | rfl | rfl | rfl
    · exact .merge given matched (groups ▸ by decide)
    · exact .merge given matched (groups ▸ by decide)
    · have marked : some (some "reviewer".toList) ∈
          ((g.linesFromHeader pullRequest.toList).drop 1).map g.fieldStart? := by
        rw [marks]
        exact List.mem_cons_self
      obtain ⟨line, later, starts⟩ := List.mem_map.mp marked
      exact .line later starts
    · exact .header (by decide)
  · rw [Bool.eq_false_iff]
    intro present
    -- The merge pattern ends before the third name, so that nothing else could set it.
    have named := (fields _).mp present
    generalize target : Value.text "target" = key at named
    cases named with
    | reserved known =>
        obtain rfl := Value.text.inj target
        exact absurd known (by decide)
    | header known =>
        obtain rfl := Value.text.inj target
        exact absurd known (by decide)
    | merge given' _ known =>
        obtain rfl := Value.text.inj target
        obtain rfl := Option.some.inj (given.symm.trans given')
        rw [groups] at known
        exact absurd known (by decide)
    | group given' _ known =>
        rw [unnamed _ given'] at known
        cases known
    | @line line name later starts =>
        have marked := List.mem_map_of_mem (f := g.fieldStart?) later
        rw [marks, starts] at marked
        simp only [List.mem_cons, Option.some.injEq, reduceCtorEq, List.not_mem_nil,
          or_false] at marked
        subst marked
        have equal : "target" = String.ofList "reviewer".toList := Value.text.inj target
        exact absurd equal (by decide)

/-- Without a merge line the names that are known for it have no fields. -/
theorem parse_unmerged : mergingOptions.IsTyped ∧
    mergingOptions.mergeCorrespondence = texts ["id", "source", "target"] ∧
    Text.blank newCall.toList = false ∧ ∃ g c, compile mergingOptions = .ok g ∧
      g.parse newCall (.text "a1") = .ok c ∧ c.fields.get? (.text "id") = none := by
  have kinds := isTyped_mergingOptions
  have said : Text.blank newCall.toList = false := by decide +kernel
  have made : ∃ g, compile mergingOptions = .ok g ∧ ∃ c, g.parse newCall (.text "a1") = .ok c ∧
      (c.fields.get? (.text "id")).isSome = false := by
    decide +kernel
  obtain ⟨g, ready, c, read, missing⟩ := made
  refine ⟨kinds, rfl, said, g, c, ready, read, ?_⟩
  exact Option.not_isSome_iff_eq_none.mp (Bool.eq_false_iff.mp missing)

end Grammar

end ReleaseAdvisor
