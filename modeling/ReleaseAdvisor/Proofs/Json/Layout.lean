import ReleaseAdvisor.Proofs.Json.Document

/-!
The layout of JSON documents. The text of a file is read with line feeds as its only line ends. A
document stands through that, with the value it had: carriage returns can only be among its blanks.
-/

namespace ReleaseAdvisor

namespace Text

/-! ### Line ends -/

theorem unifyLineFeeds_of_ne {c : Char} (other : c ≠ '\r') (rest : List Char) :
    unifyLineFeeds (c :: rest) = c :: unifyLineFeeds rest :=
  unifyLineFeeds.eq_4 c rest (fun _ same => absurd same other) other

theorem unifyLineFeeds_return {rest : List Char} (alone : rest.head? ≠ some '\n') :
    unifyLineFeeds ('\r' :: rest) = '\n' :: unifyLineFeeds rest :=
  unifyLineFeeds.eq_3 rest fun _ same => alone (by rw [same]; rfl)

theorem unifyLineFeeds_append_cons {c : Char} (notReturn : c ≠ '\r') (notFeed : c ≠ '\n')
    (cs ds : List Char) :
    unifyLineFeeds (cs ++ c :: ds) = unifyLineFeeds cs ++ c :: unifyLineFeeds ds := by
  induction cs using unifyLineFeeds.induct with
  | case1 => exact unifyLineFeeds_of_ne notReturn ds
  | case2 rest ih =>
      change '\n' :: unifyLineFeeds (rest ++ c :: ds) = _
      rw [ih]
      rfl
  | case3 rest alone ih =>
      have first : rest.head? ≠ some '\n' := by
        intro feed
        cases rest with
        | nil => cases feed
        | cons d rest => exact alone rest (by rw [Option.some.inj feed])
      have first' : (rest ++ c :: ds).head? ≠ some '\n' := by
        cases rest with
        | nil => exact fun feed => notFeed (Option.some.inj feed)
        | cons d rest => exact first
      rw [List.cons_append, unifyLineFeeds_return first, unifyLineFeeds_return first', ih]
      rfl
  | case4 d rest _ other ih =>
      rw [List.cons_append, unifyLineFeeds_of_ne other, unifyLineFeeds_of_ne other, ih]
      rfl

theorem unifyLineFeeds_eq_self {cs : List Char} (without : '\r' ∉ cs) :
    unifyLineFeeds cs = cs := by
  induction cs with
  | nil => rfl
  | cons c cs ih =>
      have first : c ≠ '\r' := fun same => without (same ▸ List.mem_cons_self)
      rw [unifyLineFeeds_of_ne first, ih fun later => without (.tail _ later)]

theorem mem_unifyLineFeeds {c : Char} {cs : List Char} (inside : c ∈ unifyLineFeeds cs) :
    c = '\n' ∨ c ∈ cs := by
  induction cs using unifyLineFeeds.induct with
  | case1 => cases inside
  | case2 rest ih =>
      rcases List.mem_cons.mp inside with feed | inside
      · exact .inl feed
      · exact (ih inside).imp_right fun later => .tail _ (.tail _ later)
  | case3 rest alone ih =>
      rw [unifyLineFeeds.eq_3 rest alone] at inside
      rcases List.mem_cons.mp inside with feed | inside
      · exact .inl feed
      · exact (ih inside).imp_right (.tail _)
  | case4 d rest _ other ih =>
      rw [unifyLineFeeds_of_ne other] at inside
      rcases List.mem_cons.mp inside with same | inside
      · exact .inr (same ▸ List.mem_cons_self)
      · exact (ih inside).imp_right (.tail _)

end Text

namespace Json

open Text

/-! ### Pieces of a document -/

theorem IsVisible.apart {c : Char} (visible : IsVisible c) : c ≠ '\r' ∧ c ≠ '\n' := by
  constructor <;> (rintro rfl; revert visible; decide)

theorem unifyLineFeeds_visible {cs : List Char} (visible : ∀ c ∈ cs, IsVisible c) :
    unifyLineFeeds cs = cs :=
  unifyLineFeeds_eq_self fun inside => (visible _ inside).apart.1 rfl

theorem Blanks.unified {gap : List Char} (blanks : Blanks gap) : Blanks (unifyLineFeeds gap) := by
  intro c inside
  rcases mem_unifyLineFeeds inside with rfl | inside
  · rfl
  · exact blanks c inside

def IsFirm (w : List Char) : Prop :=
  (∃ c rest, w = c :: rest ∧ IsVisible c) ∧ ∃ front c, w = front ++ [c] ∧ IsVisible c

theorem IsFirm.of_visible {w : List Char} (some : w ≠ []) (visible : ∀ c ∈ w, IsVisible c) :
    IsFirm w := by
  constructor
  · obtain ⟨c, rest, rfl⟩ := List.exists_cons_of_ne_nil some
    exact ⟨c, rest, rfl, visible c List.mem_cons_self⟩
  · refine ⟨w.dropLast, w.getLast some, (List.dropLast_append_getLast some).symm, ?_⟩
    exact visible _ (List.getLast_mem some)

theorem IsFirm.between {first last : Char} (opens : IsVisible first) (closes : IsVisible last)
    (inner : List Char) : IsFirm (first :: (inner ++ [last])) :=
  ⟨⟨first, _, rfl, opens⟩, first :: inner, last, rfl, closes⟩

theorem IsFirm.unified {w : List Char} (firm : IsFirm w) (before after : List Char) :
    unifyLineFeeds (before ++ (w ++ after)) =
      unifyLineFeeds before ++ (unifyLineFeeds w ++ unifyLineFeeds after) := by
  obtain ⟨⟨c, rest, start, opens⟩, front, d, finish, closes⟩ := firm
  have left : unifyLineFeeds (before ++ (w ++ after)) =
      unifyLineFeeds before ++ unifyLineFeeds (w ++ after) := by
    rw [start, List.cons_append, unifyLineFeeds_append_cons opens.apart.1 opens.apart.2,
      unifyLineFeeds_of_ne opens.apart.1]
  have right : unifyLineFeeds (w ++ after) = unifyLineFeeds w ++ unifyLineFeeds after := by
    rw [finish, List.append_assoc, List.singleton_append,
      unifyLineFeeds_append_cons closes.apart.1 closes.apart.2,
      unifyLineFeeds_append_cons closes.apart.1 closes.apart.2, unifyLineFeeds, List.append_assoc]
    rfl
  rw [left, right]

theorem unifyLineFeeds_between {first last : Char} (opens : IsVisible first)
    (closes : IsVisible last) (inner : List Char) :
    unifyLineFeeds (first :: (inner ++ [last])) = first :: (unifyLineFeeds inner ++ [last]) := by
  rw [unifyLineFeeds_of_ne opens.apart.1,
    unifyLineFeeds_append_cons closes.apart.1 closes.apart.2]
  rfl

theorem unifyLineFeeds_join (parts : List (List Char)) :
    unifyLineFeeds (Text.join [','] parts) = Text.join [','] (parts.map unifyLineFeeds) := by
  induction parts with
  | nil => rfl
  | cons first later ih =>
      cases later with
      | nil => rfl
      | cons second later =>
          rw [Text.join_cons_cons, List.append_assoc, List.singleton_append,
            unifyLineFeeds_append_cons (by decide) (by decide), ih, List.map_cons, List.map_cons,
            List.map_cons, Text.join_cons_cons, List.append_assoc, List.singleton_append]

/-! ### Documents -/

def Item.unified (i : Item) : Item where
  front := unifyLineFeeds i.front
  written := unifyLineFeeds i.written
  back := unifyLineFeeds i.back
  value := i.value
  front_blanks := i.front_blanks.unified
  back_blanks := i.back_blanks.unified

def Member.unified (m : Member) : Member where
  before := unifyLineFeeds m.before
  name := m.name
  spelled := m.spelled
  after := unifyLineFeeds m.after
  item := m.item.unified
  before_blanks := m.before_blanks.unified
  name_spells := m.name_spells
  after_blanks := m.after_blanks.unified

theorem Writes.isFirm {w : List Char} {v : Value} (writes : Writes w v) : IsFirm w := by
  obtain ⟨c, rest, start, _⟩ := writes.start
  have some : w ≠ [] := by
    rw [start]
    exact List.cons_ne_nil c rest
  cases writes with
  | word listed => exact .of_visible some fun c inside => word_isVisible listed c inside
  | number n => exact .of_visible some fun c inside => n.isVisible c inside
  | text spells => exact .between (by decide) (by decide) _
  | emptyList blanks => exact .between (by decide) (by decide) _
  | list more each => exact .between (by decide) (by decide) _
  | emptyMapping blanks => exact .between (by decide) (by decide) _
  | mapping more each => exact .between (by decide) (by decide) _

theorem Item.source_unified {i : Item} (writes : Writes i.written i.value) :
    i.unified.source = unifyLineFeeds i.source :=
  (writes.isFirm.unified i.front i.back).symm

theorem Member.source_unified {m : Member} (writes : Writes m.item.written m.item.value) :
    m.unified.source = unifyLineFeeds m.source := by
  have name : unifyLineFeeds m.name = m.name :=
    unifyLineFeeds_visible fun c inside => m.name_spells.isVisible c inside
  symm
  rw [Member.source, unifyLineFeeds_append_cons (by decide) (by decide),
    unifyLineFeeds_append_cons (by decide) (by decide), name,
    unifyLineFeeds_append_cons (by decide) (by decide), ← Item.source_unified writes]
  rfl

theorem Writes.unified {w : List Char} {v : Value} (writes : Writes w v) :
    Writes (unifyLineFeeds w) v := by
  induction writes with
  | word listed =>
      rw [unifyLineFeeds_visible fun c inside => word_isVisible listed c inside]
      exact .word listed
  | number n =>
      rw [unifyLineFeeds_visible fun c inside => n.isVisible c inside]
      exact .number n
  | text spells =>
      rw [unifyLineFeeds_between (by decide) (by decide),
        unifyLineFeeds_visible fun c inside => spells.isVisible c inside]
      exact .text spells
  | emptyList blanks =>
      rw [unifyLineFeeds_between (by decide) (by decide)]
      exact .emptyList blanks.unified
  | @list items more each ih =>
      have sources : (items.map Item.source).map unifyLineFeeds =
          (items.map Item.unified).map Item.source := by
        rw [List.map_map, List.map_map]
        exact List.map_congr_left fun i listed => (Item.source_unified (each i listed)).symm
      have values : items.map Item.value = (items.map Item.unified).map Item.value := by
        rw [List.map_map]
        rfl
      rw [unifyLineFeeds_between (by decide) (by decide), unifyLineFeeds_join, sources, values]
      refine .list (by simpa using more) fun i listed => ?_
      obtain ⟨j, within, rfl⟩ := List.mem_map.mp listed
      exact ih j within
  | emptyMapping blanks =>
      rw [unifyLineFeeds_between (by decide) (by decide)]
      exact .emptyMapping blanks.unified
  | @mapping members more each ih =>
      have sources : (members.map Member.source).map unifyLineFeeds =
          (members.map Member.unified).map Member.source := by
        rw [List.map_map, List.map_map]
        exact List.map_congr_left fun m listed => (Member.source_unified (each m listed)).symm
      have entries : members.map Member.entry = (members.map Member.unified).map Member.entry := by
        rw [List.map_map]
        rfl
      rw [unifyLineFeeds_between (by decide) (by decide), unifyLineFeeds_join, sources, entries]
      refine .mapping (by simpa using more) fun m listed => ?_
      obtain ⟨n, within, rfl⟩ := List.mem_map.mp listed
      exact ih n within

/-- A document is one of the same value with line feeds as its only line ends. -/
theorem IsDocument.unified {cs : List Char} {v : Value} (document : IsDocument cs v) :
    IsDocument (unifyLineFeeds cs) v := by
  obtain ⟨i, writes, rfl, rfl⟩ := document
  exact ⟨i.unified, writes.unified, (Item.source_unified writes).symm, rfl⟩

end Json
end ReleaseAdvisor
