import ReleaseAdvisor.Proofs.Sections
import ReleaseAdvisor.Proofs.Spans
import ReleaseAdvisor.Proofs.Usual

/-!
Header fields under the presets. A field for which the header pattern has a group holds what that
group holds of the header, whatever the lines after it are, with one exception: field lines may bear
any name that is not reserved, and one that bears the name of a header field takes its place.
-/

namespace ReleaseAdvisor

open Pattern

namespace Grammar

/-! ### Field lines -/

def defaultField : Regex := known "^-(.*?)-$"

def fieldLine (name : List Char) : Line := '-' :: (name ++ ['-'])

def fieldEnd : List Node := [.one (.point '-'.toNat .exact), .stand .lastBreak]

theorem defaultField_eq : defaultField.groups = 1 ∧ defaultField.body =
    .ofList (.stand .textStart :: .one (.point '-'.toNat .exact) ::
      .group 1 (.many .inLine 0 none .lazy) :: fieldEnd) := by
  decide +kernel

theorem back_of_run_fieldEnd {front back : List Char} {caps : Captures} {o : Pattern.Outcome}
    (found : (Node.ofList fieldEnd).run (.between front back) caps finish = some o) :
    back = ['-'] ∨ back = ['-', '\n'] := by
  rw [fieldEnd, Node.run_cons] at found
  obtain ⟨rest, rfl, left⟩ := Node.exists_of_run_point found
  have ends : Anchor.lastBreak.holds (.between (front ++ ['-']) rest) = true := by
    by_contra other
    rw [Node.ofList, Node.run, if_neg other] at left
    cases left
  have last : rest = [] ∨ rest = ['\n'] := by
    simpa [Anchor.holds, Cursor.between] using ends
  rcases last with rfl | rfl
  · exact .inl rfl
  · exact .inr rfl

theorem match?_fieldLine {name : List Char} (whole : '\n' ∉ name) :
    defaultField.match? (fieldLine name) = some [some name] := by
  have run : defaultField.body.run (.between [] (fieldLine name)) [] finish =
      some (.between (['-'] ++ name ++ ['-']) [], [(1, .taken name ['-'])]) := by
    rw [defaultField_eq.2, Node.run_textStart, fieldLine, Node.run_cons, Node.run_one,
      if_pos (by decide), Node.run_cons, Node.run_group]
    refine Node.run_lazy rfl (takes_inLine whole) ?_ fun u v cut _ shorter => ?_
    · rw [Cursor.upTo_between, fieldEnd, Node.run_cons, Node.run_one, if_pos (by decide)]
      rfl
    · -- A shorter name would leave more than the last mark.
      obtain ⟨x, more, _, rfl⟩ := exists_of_longer cut.symm shorter
      rw [Option.eq_none_iff_forall_ne_some]
      intro o found
      rcases back_of_run_fieldEnd found with back | back
      · simp at back
      · obtain ⟨rfl, back⟩ := List.cons.inj back
        cases more <;> simp at back
  rw [Regex.match?_of_run run, defaultField_eq.1]
  simp [List.range_succ]

theorem exists_of_match?_field {line : Line} (whole : '\n' ∉ line)
    (matched : (defaultField.match? line).isSome = true) : ∃ name, line = fieldLine name := by
  obtain ⟨o, run⟩ := Regex.exists_run_of_match? matched
  rw [defaultField_eq.2, Node.run_textStart, Node.run_cons] at run
  obtain ⟨rest, rfl, opened⟩ := Node.exists_of_run_point run
  rw [Node.run_cons, Node.run_group] at opened
  obtain ⟨name, rest, rfl, _, named⟩ := Node.exists_of_run_many opened
  refine ⟨name, ?_⟩
  rcases back_of_run_fieldEnd named with rfl | rfl
  · rfl
  · simp at whole

theorem fieldStart?_eq_some {g : Grammar} (field : g.field = some defaultField) {line : Line}
    (whole : '\n' ∉ line) {name : List Char} :
    g.fieldStart? line = some (some name) ↔ line = fieldLine name := by
  have start : g.fieldStart? line = (defaultField.match? line).map fun found =>
      found.head?.join := by
    rw [fieldStart?, field, Option.bind_some]
  rw [start]
  constructor
  · intro starts
    obtain ⟨_, matched, _⟩ := Option.map_eq_some_iff.mp starts
    obtain ⟨own, rfl⟩ := exists_of_match?_field whole (Option.isSome_of_eq_some matched)
    have inside : '\n' ∉ own := fun feed => whole (by simp [fieldLine, feed])
    rw [match?_fieldLine inside] at starts
    have same : own = name := by simpa using starts
    rw [same]
  · rintro rfl
    have inside : '\n' ∉ name := fun feed => whole (by simp [fieldLine, feed])
    rw [match?_fieldLine inside, Option.map_some, List.head?_cons, Option.join_some]

/-! ### The fields of a header -/

def headerGroup (p : Regex) (h : Line) (i : Nat) : Value :=
  .ofGroup ((p.match? h).bind fun found => found[i]?.join)

/-- The grammar takes lines as they are, and gives the groups of the header pattern to fields of the
names, which are none of those that come last. -/
structure NamesGroups (g : Grammar) (p : Regex) (names : List String) : Prop where
  plain : g.HasPlainLines
  header : g.header = some p
  headerNames : g.headerNames = texts names
  unnamed : p.names = []
  distinct : names.Nodup
  free : ∀ name ∈ names, name ∉ reservedNames

/-- How the fields of the names come about. Each holds what its group of the header pattern holds of
the header, unless a later line is the field line of its name; the last such line then has the
field, with the lines up to the next field line. -/
structure HasHeaderFields (g : Grammar) (p : Regex) (names : List String) (h : Line)
    (later : List Line) (c : Commit) : Prop where
  header : c.field "header" = .ofChars h
  group : ∀ i name, names[i]? = some name → fieldLine name.toList ∉ later →
    c.field name = headerGroup p h i
  taken : ∀ i, ∀ name ∈ names, later[i]? = some (fieldLine name.toList) →
    (∀ j, i < j → later[j]? ≠ some (fieldLine name.toList)) →
    c.field name = if (upToNext g.fieldStart? later i).isEmpty then .null
      else .ofChars (joinLines (upToNext g.fieldStart? later i))

section Fields

variable {g : Grammar} {p : Regex} {names : List String} (heads : g.NamesGroups p names)
  {text : List Char} {parts : Parts} (found : g.FallsInto text parts)

include heads found

theorem NamesGroups.head_field (unmerged : parts.merged = none) {i : Nat} {name : String}
    (named : names[i]? = some name) :
    (parts.headEntries.last? name).getD .null = headerGroup p parts.header i := by
  have listed : parts.names = names.map .text := by
    have items := found.names
    rw [heads.headerNames] at items
    exact (Except.ok.inj items).symm
  have unset (name : String) :
      (Entries.last? (parts.names.map fun name => (name, .null)) name).getD .null = .null := by
    refine Entries.last?_getD_of_null (fun e listed => ?_) name
    obtain ⟨_, _, rfl⟩ := List.mem_map.mp listed
    rfl
  have fields := found.headed
  rw [heads.header, heads.headerNames] at fields
  rw [Parts.headEntries, unmerged, Option.getD_none, List.append_nil, Entries.last?_append,
    headerGroup]
  cases matched : p.match? parts.header with
  | none =>
      rw [fieldsOf, matched] at fields
      rw [← Except.ok.inj fields]
      exact unset name
  | some groups =>
      rw [fieldsOf_unnamed heads.unnamed matched, Entries.putAll_zip heads.distinct] at fields
      rw [← Except.ok.inj fields, Option.getD_some, Entries.last?_zip heads.distinct named,
        List.getElem?_map, Option.bind_some]
      cases groups[i]? with
      | none => exact unset name
      | some group => rfl

theorem NamesGroups.field_eq (unmerged : parts.merged = none) {i : Nat} {name : String}
    (named : names[i]? = some name)
    (unstarted : ∀ line ∈ parts.rest, g.fieldStart? line ≠ some (some name.toList))
    (hash : Value) : (parts.commit g hash).field name = headerGroup p parts.header i := by
  have none : (g.contentOf parts.rest).fields.last? name = none := by
    have none := last?_fieldEntry_of_unstarted unstarted
    rwa [String.ofList_toList] at none
  rw [Parts.field_free (heads.free name (List.mem_of_getElem? named)), none, Option.none_or]
  exact heads.head_field found unmerged named

theorem NamesGroups.hasHeaderFields (field : g.field = some defaultField)
    (said : Text.blank text = false) (hash : Value) :
    g.HasHeaderFields p names parts.header parts.rest (parts.commit g hash) := by
  obtain ⟨unmerged, lines⟩ := found.trimLines_eq heads.plain said
  have starts {line : Line} (listed : line ∈ parts.rest) (name : String) :
      g.fieldStart? line = some (some name.toList) ↔ line = fieldLine name.toList := by
    have counted : line ∈ trimLines (Text.lines text) := lines ▸ List.mem_cons_of_mem _ listed
    exact fieldStart?_eq_some field (feed_not_mem_of_mem_trimLines counted)
  have startsAt (i : Nat) (name : String) :
      parts.rest[i]?.bind g.fieldStart? = some (some name.toList) ↔
        parts.rest[i]? = some (fieldLine name.toList) := by
    cases present : parts.rest[i]? with
    | none => simp
    | some line =>
        rw [Option.bind_some, starts (List.mem_of_getElem? present), Option.some.injEq]
  refine ⟨Parts.field_reserved List.mem_cons_self, fun i name named absent => ?_,
    fun i name listed present latest => ?_⟩
  · refine heads.field_eq found unmerged named (fun line listed begins => ?_) hash
    rw [(starts listed name).mp begins] at listed
    exact absent listed
  · have last := last?_fieldEntry ((startsAt i name).mpr present)
      fun j after begins => latest j after ((startsAt j name).mp begins)
    rw [String.ofList_toList] at last
    change (g.contentOf parts.rest).fields.last? name = _ at last
    rw [Parts.field_free (heads.free name listed), last]
    rfl

end Fields

/-! ### Presets -/

structure Options.NamesGroups (options : Options) (p : Regex) (names : List String) : Prop where
  header : options.headerPattern = .pattern p
  headerNames : options.headerCorrespondence = texts names
  unnamed : p.names = []
  distinct : names.Nodup
  free : ∀ name ∈ names, name ∉ reservedNames
  merge : options.mergePattern = .null
  mergeNames : options.mergeCorrespondence = texts []
  revertNames : options.revertCorrespondence = texts ["header", "hash"]
  comment : options.commentChar = .null
  field : options.fieldPattern = .text "^-(.*?)-$"

section Ready

variable {g : Grammar} {options : Options} {p : Regex} {names : List String}

theorem IsMadeOf.plainLines (made : g.IsMadeOf options) (given : options.NamesGroups p names) :
    g.HasPlainLines where
  merge := by
    have ready := made.merge
    rw [given.merge] at ready
    exact (Except.ok.inj ready).symm
  comment := made.comment.trans given.comment
  typed :=
    ⟨⟨_, made.headerNames.trans given.headerNames⟩, ⟨_, made.mergeNames.trans given.mergeNames⟩,
      ⟨_, made.revertNames.trans given.revertNames⟩, .inl (made.comment.trans given.comment)⟩

theorem IsMadeOf.namesGroups (made : g.IsMadeOf options) (given : options.NamesGroups p names) :
    g.NamesGroups p names where
  plain := made.plainLines given
  header := by
    have ready := made.header
    rw [given.header] at ready
    exact (Except.ok.inj ready).symm
  headerNames := made.headerNames.trans given.headerNames
  unnamed := given.unnamed
  distinct := given.distinct
  free := given.free

theorem compilePattern_defaultField :
    compilePattern "field_pattern" (.text "^-(.*?)-$") = .ok (some defaultField) := by
  cases read : Regex.read "^-(.*?)-$" with
  | error fault =>
      have sound : (Regex.read "^-(.*?)-$").isOk = true := by decide +kernel
      rw [read] at sound
      cases sound
  | ok r => simp only [compilePattern, defaultField, known, read]

theorem IsMadeOf.field_eq (made : g.IsMadeOf options) (given : options.NamesGroups p names) :
    g.field = some defaultField := by
  have ready := made.field
  rw [given.field, compilePattern_defaultField] at ready
  exact (Except.ok.inj ready).symm

end Ready

theorem namesGroups_of_preset {preset : String × Layer} (listed : preset ∈ presets) :
    ∃ p names, preset.2.lookup "header_pattern" = some (.pattern p) ∧
      preset.2.lookup "header_correspondence" = some (texts names) ∧
      (Options.ofLayer preset.2).NamesGroups p names := by
  simp only [presets, List.mem_cons, List.not_mem_nil, or_false] at listed
  rcases listed with rfl | rfl | rfl | rfl | rfl | rfl | rfl | rfl <;>
    exact ⟨_, _, rfl, rfl, rfl, rfl, by decide +kernel, by decide, by decide, rfl, rfl, rfl, rfl,
      rfl⟩

theorem compile_preset {preset : String × Layer} (listed : preset ∈ presets) :
    ∃ g, compile (.ofLayer preset.2) = .ok g := by
  have ready : ∀ preset ∈ presets, (compile (.ofLayer preset.2)).isOk = true := by decide +kernel
  exact Outcome.isOk_iff.mp (ready preset listed)

/-- A preset reads every message that is not blank. Each field that its header pattern has a group
for holds what the group holds of the header, and null if the header is not matched, whatever the
later lines are; only a field line of the same name puts other lines in its place. -/
theorem parse_preset {preset : String × Layer} (listed : preset ∈ presets) :
    ∃ g p names, compile (.ofLayer preset.2) = .ok g ∧
      preset.2.lookup "header_pattern" = some (.pattern p) ∧
      preset.2.lookup "header_correspondence" = some (texts names) ∧
      ∀ (message : String) (hash : Value), Text.blank message.toList = false →
        ∃ c h later, g.parse message hash = .ok c ∧
          trimLines (Text.lines message.toList) = h :: later ∧
          g.HasHeaderFields p names h later c := by
  obtain ⟨g, ready⟩ := compile_preset listed
  obtain ⟨p, names, pattern, correspondence, given⟩ := namesGroups_of_preset listed
  have made := isMadeOf_of_compile ready
  have heads := made.namesGroups given
  refine ⟨g, p, names, ready, pattern, correspondence, fun message hash said => ?_⟩
  obtain ⟨parts, _, _, read, found, _⟩ := heads.plain.parse_said hash said
  obtain ⟨_, lines⟩ := found.trimLines_eq heads.plain said
  exact ⟨_, parts.header, parts.rest, read, lines,
    heads.hasHeaderFields found (made.field_eq given) said hash⟩

end Grammar

namespace Sample

def retitled : String := "[BUGFIX beta] Fix it\n\n-message-\nOther text"

def typedLater : String := "Merge branch main\n\n-type-\nfeat"

end Sample

open Sample

namespace Grammar

theorem parse_preset_retitled : ("ember", ember) ∈ presets ∧
    Text.blank retitled.toList = false ∧ ∃ g c, compile (.ofLayer ember) = .ok g ∧
      g.parse retitled (.text "a1") = .ok c ∧ c.field "tag" = .text "BUGFIX" ∧
      c.field "taggedAs" = .text "beta" ∧ c.field "message" = .text "Other text" := by
  have listed : ("ember", ember) ∈ presets := by simp [presets]
  have said : Text.blank retitled.toList = false := by decide +kernel
  obtain ⟨g, p, names, ready, pattern, correspondence, reads⟩ := parse_preset listed
  obtain ⟨c, h, later, read, lines, fields⟩ := reads retitled (.text "a1") said
  have lines' : trimLines (Text.lines retitled.toList) = "[BUGFIX beta] Fix it".toList ::
      ["", "-message-", "Other text"].map String.toList := by
    decide +kernel
  obtain ⟨rfl, rfl⟩ := List.cons.inj (lines.symm.trans lines')
  obtain rfl : known "^\\[(.*) (.*)] (.*)$" = p := Value.pattern.inj (Option.some.inj pattern)
  have named : ["tag", "taggedAs", "message"].map Value.text = names.map Value.text :=
    Value.list.inj (Option.some.inj correspondence)
  obtain rfl : ["tag", "taggedAs", "message"] = names :=
    List.map_injective_iff.mpr (fun _ _ => Value.text.inj) named
  have matched : (known "^\\[(.*) (.*)] (.*)$").match? "[BUGFIX beta] Fix it".toList =
      some [some "BUGFIX".toList, some "beta".toList, some "Fix it".toList] := by
    decide +kernel
  have made : ∃ g, compile (.ofLayer ember) = .ok g ∧ upToNext g.fieldStart?
      (["", "-message-", "Other text"].map String.toList) 1 = ["Other text".toList] := by
    decide +kernel
  obtain ⟨g', ready', after⟩ := made
  obtain rfl : g' = g := Except.ok.inj (ready'.symm.trans ready)
  refine ⟨listed, said, g', c, ready, read, ?_, ?_, ?_⟩
  · rw [fields.group 0 "tag" rfl (by decide), headerGroup, matched]
    rfl
  · rw [fields.group 1 "taggedAs" rfl (by decide), headerGroup, matched]
    rfl
  · have latest : ∀ j, 1 < j →
        (["", "-message-", "Other text"].map String.toList)[j]? ≠
          some (fieldLine "message".toList) := by
      rintro (_ | _ | _ | j) after
      · cases after
      · exact absurd after (by decide)
      · decide
      · simp
    rw [fields.taken 1 "message" (by decide) (by decide) latest, after]
    rfl

/-- A header that is not matched still has a type, that of the field line. -/
theorem parse_typedLater : ∃ g, compile (.ofLayer angular) = .ok g ∧
    ∃ c, g.parse typedLater (.text "") = .ok c ∧ c.field "header" = .text "Merge branch main" ∧
      defaultHeader.match? "Merge branch main".toList = none ∧ c.field "type" = .text "feat" := by
  have read : ∃ g, compile (.ofLayer angular) = .ok g ∧
      ∃ c, g.parse typedLater (.text "") = .ok c ∧
        (c.field "header").same (.text "Merge branch main") = true ∧
        defaultHeader.match? "Merge branch main".toList = none ∧
        (c.field "type").same (.text "feat") = true := by
    decide +kernel
  simpa only [Value.same_text] using read

end Grammar
end ReleaseAdvisor
