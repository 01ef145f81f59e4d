import Mathlib.Data.List.Forall2
import Mathlib.Logic.Basic

/-!
Computations that may fail, read off their results: a chain of steps succeeds if every step does.
Three computations of which the last stands for the other two are compared step by step.
-/

namespace ReleaseAdvisor.Outcome

variable {ε α β : Type}

theorem ok_bind (value : α) (next : α → Except ε β) : .ok value >>= next = next value := rfl

theorem bind_eq_ok {first : Except ε α} {next : α → Except ε β} {result : β} :
    first >>= next = .ok result ↔ ∃ value, first = .ok value ∧ next value = .ok result := by
  cases first with
  | error failure =>
      constructor
      · intro same
        cases same
      · rintro ⟨value, same, _⟩
        cases same
  | ok value =>
      constructor
      · intro same
        exact ⟨value, rfl, same⟩
      · rintro ⟨other, same, result⟩
        cases same
        exact result

theorem map_eq_ok {first : Except ε α} {f : α → β} {result : β} :
    first.map f = .ok result ↔ ∃ value, first = .ok value ∧ f value = result := by
  cases first with
  | error failure => simp [Except.map]
  | ok value => simp [Except.map]

theorem toOption_eq_some {a : Except ε α} {x : α} : a.toOption = some x ↔ a = .ok x := by
  cases a with
  | error failure => simp [Except.toOption]
  | ok value => simp [Except.toOption]

theorem filterM_eq_ok {p : α → Except ε Bool} {q : α → Bool} (items : List α)
    (each : ∀ item, p item = .ok (q item)) : items.filterM p = .ok (items.filter q) := by
  have run : ∀ kept, items.filterAuxM p kept = .ok ((items.filter q).reverse ++ kept) := by
    induction items with
    | nil => exact fun kept => rfl
    | cons item items ih =>
        intro kept
        rw [List.filterAuxM, each]
        change items.filterAuxM p _ = _
        cases chosen : q item <;> simp [ih, chosen]
  rw [List.filterM, run]
  simp [bind, Except.bind, pure, Except.pure]

theorem bind_eq_error {first : Except ε α} {next : α → Except ε β} {failure : ε} :
    first >>= next = .error failure ↔
      first = .error failure ∨ ∃ value, first = .ok value ∧ next value = .error failure := by
  cases first with
  | error other =>
      constructor
      · intro same
        cases same
        exact .inl rfl
      · rintro (same | ⟨value, same, _⟩)
        · cases same
          rfl
        · cases same
  | ok value =>
      constructor
      · intro fails
        exact .inr ⟨value, rfl, fails⟩
      · rintro (same | ⟨other, same, fails⟩)
        · cases same
        · cases same
          exact fails

theorem exists_ok_iff {a : Except ε α} : (∃ x, a = .ok x) ↔ ∀ failure, a ≠ .error failure := by
  cases a with
  | error failure => simp
  | ok value => simp

theorem mapM_eq_ok {f : α → Except ε β} {items : List α} {results : List β} :
    items.mapM f = .ok results ↔
      List.Forall₂ (fun item result => f item = .ok result) items results := by
  induction items generalizing results with
  | nil =>
      rw [List.mapM_nil, List.forall₂_nil_left_iff]
      constructor
      · intro done
        cases done
        rfl
      · rintro rfl
        rfl
  | cons item items ih =>
      rw [List.mapM_cons, bind_eq_ok, List.forall₂_cons_left_iff]
      constructor
      · rintro ⟨result, head, done⟩
        obtain ⟨rest, tail, same⟩ := bind_eq_ok.mp done
        cases same
        exact ⟨result, rest, head, ih.mp tail, rfl⟩
      · rintro ⟨result, rest, head, tail, rfl⟩
        exact ⟨result, head, bind_eq_ok.mpr ⟨rest, ih.mpr tail, rfl⟩⟩

theorem exists_of_mapM {f : α → Except ε β} {items : List α} {results : List β}
    (done : items.mapM f = .ok results) : ∀ item ∈ items, ∃ result, f item = .ok result := by
  induction mapM_eq_ok.mp done with
  | nil => simp
  | cons head _ ih =>
      refine List.forall_mem_cons.mpr ⟨⟨_, head⟩, ih (mapM_eq_ok.mpr ?_)⟩
      assumption

theorem mapM_eq_error {f : α → Except ε β} {items : List α} {failure : ε} :
    items.mapM f = .error failure ↔
      ∃ earlier item later, items = earlier ++ item :: later ∧
        (∀ other ∈ earlier, ∃ result, f other = .ok result) ∧ f item = .error failure := by
  induction items with
  | nil =>
      rw [List.mapM_nil]
      constructor
      · intro same
        cases same
      · rintro ⟨earlier, item, later, split, _⟩
        cases earlier <;> cases split
  | cons first items ih =>
      rw [List.mapM_cons, bind_eq_error]
      constructor
      · rintro (head | ⟨result, head, rest⟩)
        · exact ⟨[], first, items, rfl, by simp, head⟩
        · rcases bind_eq_error.mp rest with tail | ⟨_, _, same⟩
          · obtain ⟨earlier, item, later, rfl, done, fails⟩ := ih.mp tail
            refine ⟨first :: earlier, item, later, rfl, ?_, fails⟩
            exact List.forall_mem_cons.mpr ⟨⟨result, head⟩, done⟩
          · cases same
      · rintro ⟨earlier, item, later, split, done, fails⟩
        cases earlier with
        | nil =>
            cases split
            exact .inl fails
        | cons other earlier =>
            cases split
            obtain ⟨⟨result, head⟩, done⟩ := List.forall_mem_cons.mp done
            have tail := ih.mpr ⟨earlier, item, later, rfl, done, fails⟩
            exact .inr ⟨result, head, bind_eq_error.mpr (.inl tail)⟩

theorem mapM_returns {f : α → Except ε β} {items : List α}
    (each : ∀ item ∈ items, ∃ result, f item = .ok result) :
    ∃ results, items.mapM f = .ok results := by
  induction items with
  | nil => exact ⟨[], rfl⟩
  | cons item items ih =>
      obtain ⟨result, first⟩ := each item List.mem_cons_self
      obtain ⟨results, rest⟩ := ih fun other listed => each other (List.mem_cons_of_mem _ listed)
      refine ⟨result :: results, ?_⟩
      rw [List.mapM_cons, first, rest]
      rfl

theorem map_mapM {γ : Type} (f : α → Except ε β) (g : β → γ) (items : List α) :
    (items.mapM f).map (List.map g) = items.mapM fun item => (f item).map g := by
  induction items with
  | nil => rfl
  | cons item items ih =>
      rw [List.mapM_cons, List.mapM_cons, ← ih]
      cases f item with
      | error failure => rfl
      | ok result =>
          cases items.mapM f with
          | error failure => rfl
          | ok results => rfl

theorem mapM_mem {f : α → Except ε β} {items : List α} {results : List β}
    (done : items.mapM f = .ok results) :
    ∀ result ∈ results, ∃ item ∈ items, f item = .ok result := by
  induction items generalizing results with
  | nil =>
      cases done
      simp
  | cons item items ih =>
      rw [List.mapM_cons] at done
      obtain ⟨first, head, done⟩ := bind_eq_ok.mp done
      obtain ⟨rest, tail, same⟩ := bind_eq_ok.mp done
      cases same
      intro result listed
      rcases List.mem_cons.mp listed with rfl | later
      · exact ⟨item, List.mem_cons_self, head⟩
      · obtain ⟨other, member, found⟩ := ih tail result later
        exact ⟨other, List.mem_cons_of_mem _ member, found⟩

theorem mapM_perm {f : α → Except ε β} {items others : List α} (perm : items.Perm others)
    {results : List β} (done : items.mapM f = .ok results) :
    ∃ later, others.mapM f = .ok later ∧ results.Perm later := by
  induction perm generalizing results with
  | nil => exact ⟨results, done, .refl _⟩
  | cons item _ ih =>
      rw [List.mapM_cons] at done
      obtain ⟨first, head, done⟩ := bind_eq_ok.mp done
      obtain ⟨rest, tail, same⟩ := bind_eq_ok.mp done
      cases same
      obtain ⟨later, again, perm⟩ := ih tail
      refine ⟨first :: later, ?_, perm.cons first⟩
      rw [List.mapM_cons, head, again]
      rfl
  | swap item other items =>
      simp only [List.mapM_cons] at done
      obtain ⟨first, head, done⟩ := bind_eq_ok.mp done
      obtain ⟨rest, tail, same⟩ := bind_eq_ok.mp done
      cases same
      obtain ⟨second, next, tail⟩ := bind_eq_ok.mp tail
      obtain ⟨others, last, same⟩ := bind_eq_ok.mp tail
      cases same
      refine ⟨second :: first :: others, ?_, .swap _ _ _⟩
      simp only [List.mapM_cons, head, next, last]
      rfl
  | trans _ _ first second =>
      obtain ⟨between, done, perm⟩ := first done
      obtain ⟨later, done, perm'⟩ := second done
      exact ⟨later, done, perm.trans perm'⟩

theorem isOk_iff {a : Except ε α} : a.isOk = true ↔ ∃ x, a = .ok x := by
  cases a with
  | error failure => simp [Except.isOk, Except.toBool]
  | ok x => simp [Except.isOk, Except.toBool]

instance decidableEqOk [DecidableEq α] (a : Except ε α) (x : α) : Decidable (a = .ok x) :=
  match a with
  | .ok y => decidable_of_iff (y = x) (by simp)
  | .error _ => isFalse (by simp)

instance decidableEqError [DecidableEq ε] (a : Except ε α) (e : ε) : Decidable (a = .error e) :=
  match a with
  | .ok _ => isFalse (by simp)
  | .error f => decidable_of_iff (f = e) (by simp)

instance decidableExistsOk (a : Except ε α) (p : α → Prop) [DecidablePred p] :
    Decidable (∃ x, a = .ok x ∧ p x) :=
  match a with
  | .ok x => decidable_of_iff (p x) (by simp)
  | .error _ => isFalse (by simp)

def FailsOnly (p : ε → Prop) (a : Except ε α) : Prop := ∀ failure, a = .error failure → p failure

namespace FailsOnly

variable {p q : ε → Prop}

theorem ok (value : α) : FailsOnly p (.ok value) := by
  intro failure same
  cases same

theorem error {failure : ε} (holds : p failure) : FailsOnly p (.error failure : Except ε α) := by
  intro other same
  cases same
  exact holds

theorem mono {a : Except ε α} (fails : FailsOnly p a) (weaker : ∀ failure, p failure → q failure) :
    FailsOnly q a :=
  fun failure same => weaker failure (fails failure same)

theorem bind {first : Except ε α} {next : α → Except ε β} (head : FailsOnly p first)
    (tail : ∀ value, first = .ok value → FailsOnly p (next value)) :
    FailsOnly p (first >>= next) := by
  cases first with
  | error failure => exact error (head failure rfl)
  | ok value => exact tail value rfl

theorem map {first : Except ε α} (f : α → β) (head : FailsOnly p first) :
    FailsOnly p (first.map f) := by
  cases first with
  | error failure => exact error (head failure rfl)
  | ok value => exact ok (f value)

theorem filterM {f : α → Except ε Bool} (items : List α) (each : ∀ item, FailsOnly p (f item)) :
    FailsOnly p (items.filterM f) := by
  have run : ∀ kept, FailsOnly p (items.filterAuxM f kept) := by
    induction items with
    | nil => exact fun kept => ok kept
    | cons item items ih =>
        intro kept
        exact bind (each item) fun keep _ => ih _
  exact bind (run []) fun kept _ => ok kept.reverse

theorem mapM {f : α → Except ε β} (items : List α)
    (each : ∀ item ∈ items, FailsOnly p (f item)) : FailsOnly p (items.mapM f) := by
  induction items with
  | nil => exact ok []
  | cons item items ih =>
      rw [List.mapM_cons]
      have rest := ih fun other member => each other (List.mem_cons_of_mem _ member)
      exact bind (each item List.mem_cons_self) fun result _ => rest.bind fun results _ => ok _

theorem foldlM {f : β → α → Except ε β} (items : List α)
    (each : ∀ state, ∀ item ∈ items, FailsOnly p (f state item)) (start : β) :
    FailsOnly p (items.foldlM f start) := by
  induction items generalizing start with
  | nil => exact ok start
  | cons item items ih =>
      rw [List.foldlM_cons]
      have rest := ih fun state other member => each state other (List.mem_cons_of_mem _ member)
      exact bind (each start item List.mem_cons_self) fun state _ => rest state

end FailsOnly

/-- The last of three computations succeeds just if the other two do, and its result is related to
theirs. Which failure it comes to is left open. -/
structure Joins {γ : Type} (rel : α → β → γ → Prop) (a : Except ε α) (b : Except ε β)
    (c : Except ε γ) : Prop where
  parts : ∀ {z}, c = .ok z → ∃ x y, a = .ok x ∧ b = .ok y ∧ rel x y z
  whole : ∀ {x y}, a = .ok x → b = .ok y → ∃ z, c = .ok z

section Joins

variable {γ α' β' γ' : Type} {rel : α → β → γ → Prop} {a : Except ε α} {b : Except ε β}
  {c : Except ε γ}

theorem joins_ok {x : α} {y : β} {z : γ} (related : rel x y z) :
    Joins (ε := ε) rel (.ok x) (.ok y) (.ok z) where
  parts same := by
    cases same
    exact ⟨x, y, rfl, rfl, related⟩
  whole _ _ := ⟨z, rfl⟩

theorem joins_error (first last : ε) : Joins rel (.error first) b (.error last) where
  parts same := by cases same
  whole same := by cases same

theorem Joins.related (joins : Joins rel a b c) {x : α} {y : β} {z : γ} (first : a = .ok x)
    (second : b = .ok y) (last : c = .ok z) : rel x y z := by
  obtain ⟨x', y', first', second', related⟩ := joins.parts last
  cases first.symm.trans first'
  cases second.symm.trans second'
  exact related

theorem Joins.eq_ok {f : α → β → γ} (joins : Joins (fun x y z => z = f x y) a b c) {z : γ} :
    c = .ok z ↔ ∃ x y, a = .ok x ∧ b = .ok y ∧ z = f x y := by
  constructor
  · exact joins.parts
  · rintro ⟨x, y, first, second, rfl⟩
    obtain ⟨z, last⟩ := joins.whole first second
    rw [last, joins.related first second last]

theorem Joins.swap (joins : Joins rel a b c) : Joins (fun y x z => rel x y z) b a c where
  parts last := by
    obtain ⟨x, y, first, second, related⟩ := joins.parts last
    exact ⟨y, x, second, first, related⟩
  whole second first := joins.whole first second

theorem Joins.bind {rel' : α' → β' → γ' → Prop} {f : α → Except ε α'} {g : β → Except ε β'}
    {h : γ → Except ε γ'} (joins : Joins rel a b c)
    (next : ∀ x y z, a = .ok x → b = .ok y → rel x y z → Joins rel' (f x) (g y) (h z)) :
    Joins rel' (a >>= f) (b >>= g) (c >>= h) where
  parts last := by
    obtain ⟨z, done, last⟩ := bind_eq_ok.mp last
    obtain ⟨x, y, first, second, related⟩ := joins.parts done
    obtain ⟨x', y', left, right, related'⟩ := (next x y z first second related).parts last
    exact ⟨x', y', bind_eq_ok.mpr ⟨x, first, left⟩, bind_eq_ok.mpr ⟨y, second, right⟩, related'⟩
  whole left right := by
    obtain ⟨x, first, left⟩ := bind_eq_ok.mp left
    obtain ⟨y, second, right⟩ := bind_eq_ok.mp right
    obtain ⟨z, done⟩ := joins.whole first second
    have related := joins.related first second done
    obtain ⟨z', last⟩ := (next x y z first second related).whole left right
    exact ⟨z', bind_eq_ok.mpr ⟨z, done, last⟩⟩

theorem Joins.map {rel' : α' → β' → γ' → Prop} {f : α → α'} {g : β → β'} {h : γ → γ'}
    (joins : Joins rel a b c) (next : ∀ x y z, rel x y z → rel' (f x) (g y) (h z)) :
    Joins rel' (a.map f) (b.map g) (c.map h) := by
  change Joins rel' (f <$> a) (g <$> b) (h <$> c)
  simp only [map_eq_pure_bind]
  exact joins.bind fun x y z _ _ related => joins_ok (next x y z related)

theorem Joins.after {δ : Type} {step : Except ε δ} {f : δ → Except ε α} {h : δ → Except ε γ}
    (next : ∀ value, Joins rel (f value) b (h value)) :
    Joins rel (step >>= f) b (step >>= h) := by
  cases step with
  | error failure => exact joins_error failure failure
  | ok value => exact next value

end Joins

end ReleaseAdvisor.Outcome
