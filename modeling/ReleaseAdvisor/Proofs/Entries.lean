import Mathlib.Data.List.Basic
import ReleaseAdvisor.Value

/-!
Ordered mappings read by their text keys. Putting entries into a mapping one after another leaves
under each text what the last of them put there, and what was there before if none did.
-/

namespace ReleaseAdvisor

namespace Value

theorem same_text {v : Value} {s : String} : v.same (.text s) = true ↔ v = .text s := by
  cases v <;> simp [same, sameScalar, wholeNumber?]

theorem text_same {s : String} {v : Value} : (Value.text s).same v = true ↔ v = .text s := by
  cases v with
  | text t => simpa [same, sameScalar] using (eq_comm : s = t ↔ t = s)
  | _ => simp [same, sameScalar, wholeNumber?]

end Value

namespace Entries

theorem get?_cons (e : Value × Value) (entries : Entries) (key : Value) :
    get? (e :: entries) key = if e.1.same key then some e.2 else entries.get? key := by
  by_cases named : e.1.same key = true <;> simp [get?, named]

theorem get?_append (first second : Entries) (key : Value) :
    get? (first ++ second) key = (first.get? key).or (second.get? key) := by
  rw [get?, List.find?_append, Option.map_or]
  rfl

theorem get?_put (entries : Entries) (key value : Value) (s : String) :
    (put key value entries).get? (.text s) =
      if key.same (.text s) then some value else entries.get? (.text s) := by
  induction entries with
  | nil => rw [put, get?_cons]
  | cons e entries ih =>
      rw [put]
      by_cases known : e.1.same key = true
      · rw [if_pos known, get?_cons, get?_cons]
        by_cases named : key.same (.text s) = true
        · have same : e.1.same (.text s) = true := Value.same_text.mp named ▸ known
          rw [if_pos named, if_pos same]
        · have other : ¬e.1.same (.text s) = true := by
            intro same
            rw [Value.same_text.mp same] at known
            exact named (Value.same_text.mpr (Value.text_same.mp known))
          rw [if_neg named, if_neg other, if_neg other]
      · rw [if_neg known, get?_cons, get?_cons, ih]
        by_cases named : key.same (.text s) = true
        · have other : ¬e.1.same (.text s) = true := by
            intro same
            exact known (Value.same_text.mp named ▸ same)
          rw [if_neg other, if_pos named, if_pos named]
        · rw [if_neg named, if_neg named]

theorem put_put (s : String) (first second : Value) (entries : Entries) :
    put (.text s) second (put (.text s) first entries) = put (.text s) second entries := by
  have self : (Value.text s).same (.text s) = true := Value.same_text.mpr rfl
  induction entries with
  | nil => simp [put, self]
  | cons e entries ih =>
      by_cases known : e.1.same (.text s) = true
      · rw [put, if_pos known, put, if_pos known, put, if_pos known]
      · rw [put, if_neg known, put, if_neg known, ih, put, if_neg known]

def last? (entries : Entries) (s : String) : Option Value := get? entries.reverse (.text s)

theorem last?_append (first second : Entries) (s : String) :
    last? (first ++ second) s = (second.last? s).or (first.last? s) := by
  rw [last?, List.reverse_append, get?_append]
  rfl

theorem last?_cons (e : Value × Value) (entries : Entries) (s : String) :
    last? (e :: entries) s =
      (entries.last? s).or (if e.1.same (.text s) then some e.2 else none) := by
  have single : last? [e] s = if e.1.same (.text s) then some e.2 else none := get?_cons e [] _
  rw [← single, ← last?_append]
  rfl

theorem last?_eq_none {entries : Entries} {s : String} (missing : ∀ e ∈ entries, e.1 ≠ .text s) :
    entries.last? s = none := by
  rw [last?, get?, Option.map_eq_none_iff, List.find?_eq_none]
  intro e listed same
  exact missing e (List.mem_reverse.mp listed) (Value.same_text.mp same)

theorem mem_of_last? {entries : Entries} {s : String} {value : Value}
    (found : entries.last? s = some value) : (.text s, value) ∈ entries := by
  obtain ⟨e, first, rfl⟩ := Option.map_eq_some_iff.mp found
  have listed := List.mem_reverse.mp (List.mem_of_find?_eq_some first)
  have named := List.find?_some first
  rwa [← Value.same_text.mp named]

theorem last?_getD_of_null {entries : Entries} (empty : ∀ e ∈ entries, e.2 = .null) (s : String) :
    (entries.last? s).getD .null = .null := by
  cases found : entries.last? s with
  | none => rfl
  | some value => exact empty _ (mem_of_last? found)

theorem last?_zip {names : List String} (distinct : names.Nodup) {values : List Value} {i : Nat}
    {name : String} (named : names[i]? = some name) :
    last? ((names.map .text).zip values) name = values[i]? := by
  induction names generalizing values i with
  | nil => cases named
  | cons first names ih =>
      obtain ⟨other, distinct⟩ := List.nodup_cons.mp distinct
      cases values with
      | nil => rfl
      | cons value values =>
          rw [List.map_cons, List.zip_cons_cons, last?_cons]
          cases i with
          | zero =>
              obtain rfl : first = name := Option.some.inj named
              have later : last? ((names.map .text).zip values) first = none := by
                refine last?_eq_none fun e listed same => other ?_
                obtain ⟨_, member, text⟩ := List.mem_map.mp (List.of_mem_zip listed).1
                rwa [← Value.text.inj (text.trans same)]
              rw [later, if_pos (Value.same_text.mpr rfl)]
              rfl
          | succ i =>
              have unlike : ¬(Value.text first).same (.text name) = true := by
                intro same
                rw [Value.text.inj (Value.same_text.mp same)] at other
                exact other (List.mem_of_getElem? named)
              rw [ih distinct named, if_neg unlike, Option.or_none]
              rfl

theorem get?_putAll (entries more : Entries) (s : String) :
    (putAll entries more).get? (.text s) = (more.last? s).or (entries.get? (.text s)) := by
  induction more generalizing entries with
  | nil => rfl
  | cons e more ih =>
      change (putAll (entries.put e.1 e.2) more).get? (.text s) = _
      rw [ih, get?_put, last?_cons, Option.or_assoc]
      split
      · rfl
      · rfl

theorem putAll_append (entries first second : Entries) :
    putAll entries (first ++ second) = putAll (putAll entries first) second :=
  List.foldl_append

theorem put_of_missing {entries : Entries} {key : Value} (value : Value)
    (missing : ∀ e ∈ entries, e.1.same key = false) :
    put key value entries = entries ++ [(key, value)] := by
  induction entries with
  | nil => rfl
  | cons e entries ih =>
      obtain ⟨other, later⟩ := List.forall_mem_cons.mp missing
      rw [put, other, ih later]
      rfl

theorem putAll_of_apart {entries more : Entries}
    (apart : (entries ++ more).Pairwise fun d e => d.1.same e.1 = false) :
    putAll entries more = entries ++ more := by
  induction more generalizing entries with
  | nil => exact (List.append_nil entries).symm
  | cons e more ih =>
      have missing : ∀ d ∈ entries, d.1.same e.1 = false := fun d listed =>
        (List.pairwise_append.mp apart).2.2 d listed e List.mem_cons_self
      change putAll (entries.put e.1 e.2) more = _
      rw [List.append_cons] at apart ⊢
      rw [put_of_missing e.2 missing, ih apart]

theorem putAll_zip {names : List String} (distinct : names.Nodup) (values : List Value) :
    putAll [] ((names.map .text).zip values) = (names.map .text).zip values := by
  refine putAll_of_apart ?_
  rw [List.nil_append]
  induction names generalizing values with
  | nil => exact List.Pairwise.nil
  | cons first names ih =>
      obtain ⟨other, distinct⟩ := List.nodup_cons.mp distinct
      cases values with
      | nil => exact List.Pairwise.nil
      | cons value values =>
          refine List.Pairwise.cons (fun e listed => ?_) (ih distinct values)
          obtain ⟨name, member, same⟩ := List.mem_map.mp (List.of_mem_zip listed).1
          refine Bool.eq_false_iff.mpr fun equal => other ?_
          rw [← same, Value.same_text] at equal
          rwa [Value.text.inj equal]

theorem put_values {p : Value → Prop} {entries : Entries} {key value : Value}
    (old : ∀ e ∈ entries, p e.2) (new : p value) : ∀ e ∈ put key value entries, p e.2 := by
  induction entries with
  | nil => simpa [put] using new
  | cons first entries ih =>
      obtain ⟨head, rest⟩ := List.forall_mem_cons.mp old
      rw [put]
      split
      · exact List.forall_mem_cons.mpr ⟨new, rest⟩
      · exact List.forall_mem_cons.mpr ⟨head, ih rest⟩

theorem putAll_values {p : Value → Prop} {entries more : Entries} (old : ∀ e ∈ entries, p e.2)
    (new : ∀ e ∈ more, p e.2) : ∀ e ∈ putAll entries more, p e.2 := by
  induction more generalizing entries with
  | nil => exact old
  | cons e more ih =>
      obtain ⟨head, rest⟩ := List.forall_mem_cons.mp new
      exact ih (put_values old head) rest

end Entries
end ReleaseAdvisor
