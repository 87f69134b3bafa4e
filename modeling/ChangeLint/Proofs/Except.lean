/-
Computations that may fail. What succeeded can be read backwards through its steps: `bind_eq_ok` and `map_eq_ok` for two
steps, `mapM_eq_ok` for one step for each item of a list. Where each item has a list of results, items without any make no
difference (`flatten_mapM_filter`).
-/
import Mathlib.Data.List.Forall2

namespace ChangeLint

variable {ε α β : Type} {x : Except ε α} {b : β}

@[simp] theorem ok_bind (a : α) (f : α → Except ε β) : (Except.ok a >>= f) = f a := rfl

@[simp] theorem error_bind (e : ε) (f : α → Except ε β) : (Except.error e >>= f) = .error e := rfl

theorem bind_eq_ok {f : α → Except ε β} (h : x >>= f = .ok b) : ∃ a, x = .ok a ∧ f a = .ok b := by
  cases x with
  | error e => cases h
  | ok a => exact ⟨a, rfl, h⟩

theorem map_eq_ok {f : α → β} (h : x.map f = .ok b) : ∃ a, x = .ok a ∧ f a = b := by
  cases x with
  | error e => cases h
  | ok a => exact ⟨a, rfl, Except.ok.inj h⟩

/-- a result can be told from what it is without its error -/
theorem toOption_eq_some {a : α} (h : x.toOption = some a) : x = .ok a := by
  cases x with
  | error e => cases h
  | ok a' => exact congrArg Except.ok (Option.some.inj h)

theorem mapError_eq_ok {φ : Type} {f : ε → φ} {a : α} (h : x.mapError f = .ok a) : x = .ok a := by
  cases x with
  | error e => cases h
  | ok a' => exact congrArg Except.ok (Except.ok.inj h)

theorem exists_map_eq_ok {f : α → β} : (∃ b, x.map f = .ok b) ↔ ∃ a, x = .ok a := by
  cases x with
  | error e => exact ⟨fun ⟨_, h⟩ => absurd h (by simp [Except.map]), fun ⟨_, h⟩ => absurd h (by simp)⟩
  | ok a => exact ⟨fun _ => ⟨a, rfl⟩, fun _ => ⟨f a, rfl⟩⟩

theorem exists_mapError_eq_ok {φ : Type} {f : ε → φ} : (∃ a, x.mapError f = .ok a) ↔ ∃ a, x = .ok a := by
  cases x with
  | error e => exact ⟨fun ⟨_, h⟩ => absurd h (by simp [Except.mapError]), fun ⟨_, h⟩ => absurd h (by simp)⟩
  | ok a => exact ⟨fun _ => ⟨a, rfl⟩, fun _ => ⟨a, rfl⟩⟩

theorem exists_bind_eq_ok {f : α → Except ε β} : (∃ b, x >>= f = .ok b) ↔ ∃ a, x = .ok a ∧ ∃ b, f a = .ok b := by
  constructor
  · rintro ⟨b, h⟩
    obtain ⟨a, ha, hb⟩ := bind_eq_ok h
    exact ⟨a, ha, b, hb⟩
  · rintro ⟨a, rfl, b, hb⟩
    exact ⟨b, hb⟩

/-! ## Traversals -/

/-- what stands in the second of two related lists is related to an item of the first -/
theorem exists_mem_of_forall₂ {R : α → β → Prop} {as : List α} {bs : List β} (h : List.Forall₂ R as bs) (hb : b ∈ bs) :
    ∃ a ∈ as, R a b := by
  obtain ⟨i, hi, rfl⟩ := List.mem_iff_getElem.1 hb
  have hi' : i < as.length := h.length_eq ▸ hi
  exact ⟨as[i], List.getElem_mem hi', h.get hi' hi⟩

/-- **A traversal succeeds** with the results of its items -/
theorem mapM_eq_ok {f : α → Except ε β} {as : List α} {bs : List β} :
    as.mapM f = .ok bs ↔ List.Forall₂ (fun a b => f a = .ok b) as bs := by
  induction as generalizing bs with
  | nil =>
    rw [List.mapM_nil, List.forall₂_nil_left_iff]
    exact ⟨fun h => (Except.ok.inj h).symm, fun h => h ▸ rfl⟩
  | cons a as ih =>
    rw [List.mapM_cons, List.forall₂_cons_left_iff]
    constructor
    · intro h
      obtain ⟨b, hb, h⟩ := bind_eq_ok h
      obtain ⟨bs', hbs, h⟩ := bind_eq_ok h
      exact ⟨b, bs', hb, ih.1 hbs, (Except.ok.inj h).symm⟩
    · rintro ⟨b, bs', hb, hbs, rfl⟩
      rw [hb, ih.2 hbs]
      rfl

theorem exists_mapM_eq_ok {f : α → Except ε β} {as : List α} :
    (∃ bs, as.mapM f = .ok bs) ↔ ∀ a ∈ as, ∃ b, f a = .ok b := by
  constructor
  · rintro ⟨bs, h⟩ a ha
    obtain ⟨b, -, hb⟩ := exists_mem_of_forall₂ (mapM_eq_ok.1 h).flip ha
    exact ⟨b, hb⟩
  · intro h
    induction as with
    | nil => exact ⟨[], rfl⟩
    | cons a as ih =>
      obtain ⟨b, hb⟩ := h a List.mem_cons_self
      obtain ⟨bs, hbs⟩ := ih fun a' ha' => h a' (List.mem_cons_of_mem a ha')
      exact ⟨b :: bs, mapM_eq_ok.2 (.cons hb (mapM_eq_ok.1 hbs))⟩

/-- a property holds of all items, or there is a first one without it -/
theorem forall_or_exists_first (P : α → Prop) (as : List α) :
    (∀ a ∈ as, P a) ∨ ∃ before a after, as = before ++ a :: after ∧ (∀ b ∈ before, P b) ∧ ¬ P a := by
  induction as with
  | nil => exact .inl (by simp)
  | cons a as ih =>
    by_cases ha : P a
    · rcases ih with hall | ⟨before, a', after, rfl, hbefore, ha'⟩
      · exact .inl (List.forall_mem_cons.2 ⟨ha, hall⟩)
      · exact .inr ⟨a :: before, a', after, rfl, List.forall_mem_cons.2 ⟨ha, hbefore⟩, ha'⟩
    · exact .inr ⟨[], a, as, rfl, by simp, ha⟩

/-- **A traversal fails** with the first failure of an item -/
theorem mapM_eq_error {f : α → Except ε β} {before after : List α} {a : α} {e : ε}
    (hbefore : ∀ a' ∈ before, ∃ b, f a' = .ok b) (ha : f a = .error e) : (before ++ a :: after).mapM f = .error e := by
  induction before with
  | nil =>
    rw [List.nil_append, List.mapM_cons, ha]
    rfl
  | cons a' before ih =>
    obtain ⟨b, hb⟩ := hbefore a' List.mem_cons_self
    rw [List.cons_append, List.mapM_cons, hb, ih fun a'' ha'' => hbefore a'' (List.mem_cons_of_mem a' ha'')]
    rfl

/-! ## Traversals with lists as results -/

theorem flatten_mapM_cons {f : α → Except ε (List β)} {as : List α} (a : α) :
    ((a :: as).mapM f).map List.flatten = f a >>= fun bs => ((as.mapM f).map List.flatten).map (bs ++ ·) := by
  rw [List.mapM_cons]
  cases f a with
  | error e => rfl
  | ok bs =>
    rw [ok_bind, ok_bind]
    cases as.mapM f with
    | error e => rfl
    | ok parts => rfl

/-- items without results can be left out -/
theorem flatten_mapM_filter {f : α → Except ε (List β)} {p : α → Bool} {as : List α}
    (h : ∀ a ∈ as, p a = false → f a = .ok []) :
    ((as.filter p).mapM f).map List.flatten = (as.mapM f).map List.flatten := by
  induction as with
  | nil => rfl
  | cons a as ih =>
    have hrest := ih fun a' ha' => h a' (List.mem_cons_of_mem a ha')
    rw [flatten_mapM_cons, ← hrest]
    cases hp : p a with
    | true => rw [List.filter_cons_of_pos hp, flatten_mapM_cons]
    | false =>
      rw [List.filter_cons_of_neg (by simp [hp]), h a List.mem_cons_self hp, ok_bind]
      cases ((as.filter p).mapM f).map List.flatten with
      | error e => rfl
      | ok bs => rfl

end ChangeLint
