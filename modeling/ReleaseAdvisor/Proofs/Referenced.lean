import ReleaseAdvisor.Proofs.Matching
import ReleaseAdvisor.Proofs.RevertMessage

/-!
What a revert says about the commit that it takes out. Entries of its description that are not empty
hold of that commit, whichever grammar has read the two. A description all of whose entries are
empty says nothing, and it holds of every commit; the usual pattern never gives one, since it does
not match without a header.
-/

namespace ReleaseAdvisor

open Outcome

namespace Commit

def IsRead (c : Commit) : Prop :=
  ∃ (g : Grammar) (message hash : String), g.parse message (.text hash) = .ok c

/-- An entry of a description holds of the commit. A hash does if it or that of the commit starts
with the other one, and any other entry if the commit has such a field. -/
inductive Bears (c : Commit) : Value × Value → Prop
  | hash {own named : String} (hashed : c.hash = .text own) (some : own ≠ "")
      (starts : named.toList <+: own.toList ∨ own.toList <+: named.toList) :
      Bears c (.text "hash", .text named)
  | field {name value : Value} (other : name ≠ .text "hash") (same : c.get name = value) :
      Bears c (name, value)

def IsNamedBy (c r : Commit) : Prop :=
  ∃ description, r.revert = .mapping description ∧ (∃ e ∈ description, e.2.truthy = true) ∧
    ∀ e ∈ description, e.2.truthy = true → c.Bears e

/-- The commit describes a reverted one by nothing but empty entries. -/
def IsVague (r : Commit) : Prop :=
  ∃ description, r.revert = .mapping description ∧ description ≠ [] ∧
    ∀ e ∈ description, e.2.truthy = false

instance (r : Commit) : Decidable r.IsVague :=
  match said : r.revert with
  | .mapping description =>
    decidable_of_iff (description ≠ [] ∧ ∀ e ∈ description, e.2.truthy = false)
      (by simp [IsVague, said])
  | .null | .bool _ | .int _ | .double _ | .text _ | .list _ | .pattern _ | .moment _ =>
    isFalse (by simp [IsVague, said])

theorem IsRead.isComparable {c : Commit} (read : c.IsRead) : c.IsComparable := by
  obtain ⟨g, message, hash, read⟩ := read
  exact Grammar.parse_isComparable read

theorem IsRead.revert_eq {r : Commit} (read : r.IsRead) : r.revert = .null ∨
    ∃ description, r.revert = .mapping description ∧ ∀ e ∈ description, Grammar.IsGroup e.2 := by
  obtain ⟨g, message, hash, read⟩ := read
  obtain ⟨_, parts, found, rfl⟩ := Grammar.parse_eq_ok.mp read
  rw [Grammar.Parts.commit_revert]
  cases reverted : parts.reverted with
  | none => exact .inl rfl
  | some description =>
      exact .inr ⟨description, rfl, Grammar.fieldsOf_values (reverted ▸ found.reverted)⟩

section Agreement

variable {c : Commit} {own : String} (hashed : c.hash = .text own)

include hashed

theorem sameHash_eq {named : String} (full : named ≠ "") :
    sameHash c.hash (.text named) = .ok (own != "" &&
      (named.toList.isPrefixOf own.toList || own.toList.isPrefixOf named.toList)) := by
  rw [hashed]
  by_cases none : own = ""
  · simp [sameHash, Value.truthy, none]
  · simp [sameHash, Value.truthy, none, full]

theorem bears_hash_iff {named : String} (full : named ≠ "") :
    c.Bears (.text "hash", .text named) ↔ sameHash c.hash (.text named) = .ok true := by
  rw [sameHash_eq hashed full, Except.ok.injEq, Bool.and_eq_true, Bool.or_eq_true, bne_iff_ne,
    List.isPrefixOf_iff_prefix, List.isPrefixOf_iff_prefix]
  constructor
  · intro bears
    cases bears with
    | hash hashed' some starts =>
        obtain rfl : own = _ := Value.text.inj (hashed.symm.trans hashed')
        exact ⟨some, starts⟩
    | field other _ => exact absurd rfl other
  · rintro ⟨some, starts⟩
    exact .hash hashed some starts

omit hashed in
theorem bears_field_iff {name : Value} {value : String} (other : name ≠ .text "hash") :
    c.Bears (name, .text value) ↔ (c.get name).same (.text value) = true := by
  rw [Value.same_text]
  constructor
  · intro bears
    cases bears with
    | hash => exact absurd rfl other
    | field _ same => exact same
  · exact .field other

theorem agrees_cons {name expected : Value} (group : Grammar.IsGroup expected) (rest : Entries) :
    c.agrees ((name, expected) :: rest) = .ok true ↔
      (expected.truthy = true → c.Bears (name, expected)) ∧ c.agrees rest = .ok true := by
  rcases group with rfl | ⟨value, rfl⟩
  · simp [agrees, Value.truthy]
  by_cases none : value = ""
  · simp [agrees, Value.truthy, none]
  have full : (Value.text value).truthy = true := by simpa [Value.truthy] using none
  by_cases named : name = .text "hash"
  · subst named
    have self : (Value.text "hash").same (.text "hash") = true := Value.same_text.mpr rfl
    rw [bears_hash_iff hashed none]
    simp only [agrees, full, self, if_true, Bool.not_true, Bool.false_eq_true, if_false,
      true_implies]
    rw [sameHash_eq hashed none]
    cases own != "" &&
      (value.toList.isPrefixOf own.toList || own.toList.isPrefixOf value.toList) <;>
      simp [bind, Except.bind, pure, Except.pure]
  · have apart : name.same (.text "hash") = false := by
      rw [Bool.eq_false_iff]
      exact fun same => named (Value.same_text.mp same)
    rw [bears_field_iff named]
    by_cases same : (c.get name).same (.text value) = true <;> simp [agrees, full, apart, same]

theorem agrees_iff {description : Entries} (values : ∀ e ∈ description, Grammar.IsGroup e.2) :
    c.agrees description = .ok true ↔ ∀ e ∈ description, e.2.truthy = true → c.Bears e := by
  induction description with
  | nil => exact iff_of_true rfl (List.forall_mem_nil _)
  | cons e rest ih =>
      obtain ⟨first, later⟩ := List.forall_mem_cons.mp values
      rw [agrees_cons hashed first, ih later, List.forall_mem_cons]

end Agreement

theorem forall_full_iff {p : Value × Value → Prop} {description : Entries}
    (more : description ≠ []) :
    (∀ e ∈ description, e.2.truthy = true → p e) ↔
      ((∃ e ∈ description, e.2.truthy = true) ∧ ∀ e ∈ description, e.2.truthy = true → p e) ∨
        (description ≠ [] ∧ ∀ e ∈ description, e.2.truthy = false) := by
  by_cases speaks : ∃ e ∈ description, e.2.truthy = true
  · constructor
    · intro holds
      exact .inl ⟨speaks, holds⟩
    · rintro (⟨_, holds⟩ | ⟨_, empty⟩)
      · exact holds
      · obtain ⟨e, listed, full⟩ := speaks
        rw [empty e listed] at full
        cases full
  · have empty : ∀ e ∈ description, e.2.truthy = false := by
      intro e listed
      rw [Bool.eq_false_iff]
      exact fun full => speaks ⟨e, listed, full⟩
    refine iff_of_true (fun e listed full => ?_) (.inr ⟨more, empty⟩)
    exact absurd ⟨e, listed, full⟩ speaks

theorem isDescribedBy_iff {c r : Commit} (read : c.IsRead) (read' : r.IsRead) :
    c.isDescribedBy r = .ok true ↔ c.IsNamedBy r ∨ r.IsVague := by
  obtain ⟨own, hashed⟩ := read.isComparable.hash
  rcases read'.revert_eq with silent | ⟨description, said, values⟩
  · rw [isDescribedBy_of_silent c r (by rw [silent]; rfl)]
    simp [IsNamedBy, IsVague, silent]
  · have named : c.IsNamedBy r ↔ (∃ e ∈ description, e.2.truthy = true) ∧
        ∀ e ∈ description, e.2.truthy = true → c.Bears e := by
      simp [IsNamedBy, said]
    have vague : r.IsVague ↔ description ≠ [] ∧ ∀ e ∈ description, e.2.truthy = false := by
      simp [IsVague, said]
    rw [named, vague]
    by_cases none : description = []
    · rw [none] at said ⊢
      rw [isDescribedBy_of_silent c r (by rw [said]; rfl)]
      simp
    · have asked : c.isDescribedBy r = c.agrees description := by
        simp [isDescribedBy, said, Value.truthy, none]
      rw [asked, agrees_iff hashed values]
      exact forall_full_iff none

end Commit

namespace Marked

theorem isRevertedBy_iff {c r : Marked} (read : c.commit.IsRead) (read' : r.commit.IsRead) :
    c.isRevertedBy r = .ok true ↔
      c.mark ≠ r.mark ∧ (c.commit.IsNamedBy r.commit ∨ r.commit.IsVague) := by
  by_cases same : c.mark = r.mark
  · simp [isRevertedBy, same]
  · rw [isRevertedBy, if_neg same, Commit.isDescribedBy_iff read read']
    simp [same]

theorem exists_partner_of_dropped {commits kept : List Marked}
    (distinct : (commits.map Marked.mark).Nodup) (done : withoutReverted commits = .ok kept)
    {c : Marked} (listed : c ∈ commits) (dropped : c ∉ kept) :
    ∃ d ∈ commits, d ∉ kept ∧ c.Related d := by
  obtain ⟨removed, run, rfl⟩ := withoutReverted_eq_ok.mp done
  have paired := removeAll_isPaired (fun _ listed => listed) (isPaired_nil commits) run
  have gone : c.mark ∈ removed := by
    by_contra stays
    exact dropped (List.mem_filter.mpr ⟨listed, by simp [stays]⟩)
  obtain ⟨d, member, went, related⟩ := paired.partner distinct listed gone
  refine ⟨d, member, fun stays => ?_, related⟩
  simpa [went] using (List.mem_filter.mp stays).2

end Marked

namespace Grammar

open Pattern

theorem held_of_run_revert {front back : List Char} {caps : Captures} {o : Pattern.Outcome}
    (found : (Node.ofList (.one blankTest :: .many quoteTest 0 (some 1) .greedy ::
      .group 1 (.many anyTest 1 none .lazy) :: trailerNodes)).run (.between front back) caps
        finish = some o) :
    ∃ header hash rest rest', header ≠ [] ∧
      o.2 = (2, .taken hash rest') :: (1, .taken header rest) :: caps := by
  rw [Node.run_cons] at found
  obtain ⟨_, _, rfl, _, found⟩ := Node.exists_of_run_one found
  rw [Node.run_cons] at found
  obtain ⟨_, _, rfl, _, found⟩ := Node.exists_of_run_many found
  rw [Node.run_cons, Node.run_group] at found
  obtain ⟨header, rest, rfl, takes, found⟩ := Node.exists_of_run_many found
  rw [Cursor.upTo_between, trailerNodes, Node.run_cons] at found
  obtain ⟨quote, left, rfl, _, found⟩ := Node.exists_of_run_many found
  rw [Node.run_cons] at found
  obtain ⟨gap, left, rfl, _, found⟩ := Node.exists_of_run_many found
  obtain ⟨start, left, rfl, _, found⟩ := Node.exists_of_run_literal found
  rw [Node.run_cons, Node.run_group] at found
  obtain ⟨hash, left, rfl, _, found⟩ := Node.exists_of_run_many found
  rw [Cursor.upTo_between] at found
  obtain ⟨_, _, rfl, _, found⟩ := Node.exists_of_run_one found
  obtain rfl := Option.some.inj found
  exact ⟨header, hash, _, _, List.length_pos_iff.mp takes.least_le, rfl⟩

theorem exists_of_match?_defaultRevert {text : List Char} {found : Regex.Found}
    (matched : defaultRevert.match? text = some found) :
    ∃ header hash, header ≠ [] ∧ found = [some header, some hash] := by
  obtain ⟨o, run⟩ := Regex.exists_run_of_match? (Option.isSome_of_eq_some matched)
  have caps : ∃ header hash back back', header ≠ [] ∧
      o.2 = [(2, .taken hash back'), (1, .taken header back)] := by
    have go := run
    rw [defaultRevert_eq.2.2, Node.run_textStart, Node.run_cons, Node.run_either,
      ← List.append_nil (Node.literal .full revertStart),
      ← List.append_nil (Node.literal .full "revert:".toList)] at go
    rcases Option.or_eq_some_iff.mp go with go | ⟨_, go⟩
    · obtain ⟨_, _, _, _, left⟩ := Node.exists_of_run_literal go
      exact held_of_run_revert left
    · obtain ⟨_, _, _, _, left⟩ := Node.exists_of_run_literal go
      exact held_of_run_revert left
  obtain ⟨header, hash, back, back', some, held⟩ := caps
  refine ⟨header, hash, some, ?_⟩
  rw [Regex.match?_of_run run, held, defaultRevert_eq.1] at matched
  simpa [List.range_succ, List.lookup_cons, eq_comm] using matched

def HasUsualReverts (g : Grammar) : Prop :=
  g.revert = some defaultRevert ∧ g.revertNames = texts ["header", "hash"]

theorem HasUsualReverts.not_isVague {g : Grammar} (usual : g.HasUsualReverts) {message : String}
    {hash : Value} {r : Commit} (read : g.parse message hash = .ok r) : ¬r.IsVague := by
  obtain ⟨_, parts, found, rfl⟩ := parse_eq_ok.mp read
  have fields := found.reverted
  rw [usual.1, usual.2] at fields
  rintro ⟨description, said, _, empty⟩
  rw [Parts.commit_revert] at said
  cases matched : defaultRevert.match? message.toList with
  | none =>
      rw [fieldsOf, matched] at fields
      rw [← Except.ok.inj fields] at said
      cases said
  | some groups =>
      obtain ⟨header, hash, more, rfl⟩ := exists_of_match?_defaultRevert matched
      have distinct : ["header", "hash"].Nodup := by decide
      rw [fieldsOf_unnamed defaultRevert_eq.2.1 matched, Entries.putAll_zip distinct] at fields
      rw [← Except.ok.inj fields] at said
      obtain rfl := Value.mapping.inj said
      have full := empty (.text "header", .ofChars header) List.mem_cons_self
      rw [Value.truthy_ofChars more] at full
      cases full

end Grammar

/-- What reverts take out. Of commits that were read, one reverts another just if it says something
about a commit that holds of the other one, or if it says nothing about the commit that it means to
revert. So a commit that drops out is named by one that drops out with it, or it names that one,
except where one of the two says nothing; and no revert found by the usual pattern does that. -/
theorem Marked.reverts_named {commits : List Marked} (distinct : (commits.map Marked.mark).Nodup)
    (read : ∀ c ∈ commits, c.commit.IsRead) :
    (∀ c ∈ commits, ∀ r ∈ commits, c.isRevertedBy r = .ok true ↔
      c.mark ≠ r.mark ∧ (c.commit.IsNamedBy r.commit ∨ r.commit.IsVague)) ∧
    (∃ kept, withoutReverted commits = .ok kept ∧ ∀ c ∈ commits, c ∉ kept →
      ∃ d ∈ commits, d ∉ kept ∧ d.mark ≠ c.mark ∧
        (c.commit.IsNamedBy d.commit ∨ d.commit.IsVague ∨
          d.commit.IsNamedBy c.commit ∨ c.commit.IsVague)) ∧
    ∀ r ∈ commits, ∀ (g : Grammar) (message : String) (hash : Value), g.HasUsualReverts →
      g.parse message hash = .ok r.commit → ¬r.commit.IsVague := by
  have reverts_iff : ∀ c ∈ commits, ∀ r ∈ commits, c.isRevertedBy r = .ok true ↔
      c.mark ≠ r.mark ∧ (c.commit.IsNamedBy r.commit ∨ r.commit.IsVague) :=
    fun c listed r listed' => isRevertedBy_iff (read c listed) (read r listed')
  refine ⟨reverts_iff, ?_, fun r _ g message hash usual found => usual.not_isVague found⟩
  obtain ⟨kept, done⟩ := withoutReverted_returns fun c listed => (read c listed).isComparable
  refine ⟨kept, done, fun c listed dropped => ?_⟩
  obtain ⟨d, member, gone, related⟩ := exists_partner_of_dropped distinct done listed dropped
  refine ⟨d, member, gone, ?_⟩
  rcases related with reverts | reverts
  · obtain ⟨differ, named | vague⟩ := (reverts_iff c listed d member).mp reverts
    · exact ⟨differ.symm, .inl named⟩
    · exact ⟨differ.symm, .inr (.inl vague)⟩
  · obtain ⟨differ, named | vague⟩ := (reverts_iff d member c listed).mp reverts
    · exact ⟨differ, .inr (.inr (.inl named))⟩
    · exact ⟨differ, .inr (.inr (.inr vague))⟩

def Sample.undoLayer : Grammar.Layer :=
  [("revert_pattern", .text "^Undo(?: (\\w+))?"), ("revert_correspondence", Grammar.texts ["hash"])]

open Sample

theorem Marked.reverts_named_undoing : ∃ (g : Grammar) (c r : Commit), g.HasUsualReverts ∧
    g.parse "feat: a" (.text "0a1b2c3d") = .ok c ∧ g.parse undoing (.text "b2") = .ok r ∧
    (Marked.mk 0 c).isRevertedBy ⟨1, r⟩ = .ok true ∧ c.IsNamedBy r ∧
    ∃ d ∈ [Marked.mk 0 c, ⟨1, r⟩], d.mark ≠ 0 ∧ (c.IsNamedBy d.commit ∨ d.commit.IsVague ∨
      d.commit.IsNamedBy c ∨ c.IsVague) := by
  have ready : ∃ g, Grammar.compile (.ofLayer []) = .ok g ∧
      ∃ c, g.parse "feat: a" (.text "0a1b2c3d") = .ok c ∧
      ∃ r, g.parse undoing (.text "b2") = .ok r ∧
        (Marked.mk 0 c).isRevertedBy ⟨1, r⟩ = .ok true ∧
        ∃ kept, withoutReverted [⟨0, c⟩, ⟨1, r⟩] = .ok kept ∧ kept = [] := by
    decide +kernel
  obtain ⟨g, ready, c, first, r, second, reverts, kept, done, rfl⟩ := ready
  have usual : g.HasUsualReverts := by
    have parts := Grammar.IsUsual.parts ⟨[], by simp, ready⟩
    exact ⟨parts.revert, parts.revertNames⟩
  have read : c.IsRead := ⟨g, _, _, first⟩
  have read' : r.IsRead := ⟨g, _, _, second⟩
  obtain ⟨reverts_iff, ⟨kept, done', partners⟩, clear⟩ :=
    @reverts_named [⟨0, c⟩, ⟨1, r⟩] (by simp) (by simp [read, read'])
  have told := (reverts_iff ⟨0, c⟩ (by simp) ⟨1, r⟩ (by simp)).mp reverts
  have named := told.2.resolve_right (clear ⟨1, r⟩ (by simp) g _ _ usual second)
  obtain rfl : [] = kept := Except.ok.inj (done.symm.trans done')
  obtain ⟨d, listed, _, differ, holds⟩ := partners ⟨0, c⟩ List.mem_cons_self List.not_mem_nil
  exact ⟨g, c, r, usual, first, second, reverts, named, d, listed, differ, holds⟩

/-- A revert that names no commit takes out one all the same. -/
theorem Marked.reverts_unnamed : ∃ g, Grammar.compile (.ofLayer undoLayer) = .ok g ∧
    ∃ c, g.parse "feat: a" (.text "a1") = .ok c ∧ ∃ r, g.parse "Undo" (.text "b2") = .ok r ∧
      r.IsVague ∧ (Marked.mk 0 c).isRevertedBy ⟨1, r⟩ = .ok true ∧
      ∃ kept, withoutReverted [⟨0, c⟩, ⟨1, r⟩] = .ok kept ∧ kept = [] := by
  decide +kernel

end ReleaseAdvisor
