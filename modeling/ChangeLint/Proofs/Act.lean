/-
Laws of actions. They form a monad. The result of an action after another one is the result of the second, if the first
has one (`result_bind`); its commands are those of the first and, if that has a result, those of the second
(`calls_bind_of_ok`, `calls_bind_of_error`). What succeeded can be read backwards through its steps (`result_bind_eq_ok`,
`result_each_eq_ok`). Actions for the items of a list run the commands of each item up to the first that fails
(`calls_each_of_ok`, `calls_each_of_error`).
-/
import ChangeLint.Act
import ChangeLint.Proofs.Except

namespace ChangeLint.Act

variable {α β : Type}

@[simp] theorem result_pure (a : α) : (pure a : Act α).result = .ok a := rfl

@[simp] theorem calls_pure (a : α) : (pure a : Act α).calls = [] := rfl

@[simp] theorem result_fail (f : Failure) : (fail f : Act α).result = .error f := rfl

@[simp] theorem result_note (level : Level) (text : String) : (note level text).result = .ok () := rfl

@[simp] theorem result_notes (log : List Entry) : (notes log).result = .ok () := rfl

@[simp] theorem calls_notes (log : List Entry) : (notes log).calls = [] := by
  simp [notes, calls, Event.argv?]

@[simp] theorem result_ofExcept (r : Except Failure α) : (ofExcept r).result = r := rfl

theorem result_bind (x : Act α) (f : α → Act β) : (x >>= f).result = x.result.bind fun a => (f a).result := by
  obtain ⟨trace, result⟩ := x
  cases result <;> rfl

theorem bind_eq_of_ok {x : Act α} {a : α} (h : x.result = .ok a) (f : α → Act β) :
    x >>= f = ⟨x.trace ++ (f a).trace, (f a).result⟩ := by
  obtain ⟨trace, result⟩ := x
  subst h
  rfl

theorem bind_eq_of_error {x : Act α} {e : Failure} (h : x.result = .error e) (f : α → Act β) :
    x >>= f = ⟨x.trace, .error e⟩ := by
  obtain ⟨trace, result⟩ := x
  subst h
  rfl

/-- the result of the second is the result of both, if the first has one -/
theorem result_bind_of_ok {x : Act α} {a : α} (h : x.result = .ok a) (f : α → Act β) :
    (x >>= f).result = (f a).result := by
  rw [bind_eq_of_ok h]

/-- a failure of the first is the failure of both -/
theorem result_bind_of_error {x : Act α} {e : Failure} (h : x.result = .error e) (f : α → Act β) :
    (x >>= f).result = .error e := by
  rw [bind_eq_of_error h]

/-- a result found without observation is followed as if it had been there -/
theorem ofExcept_bind_of_ok {r : Except Failure α} {a : α} (h : r = .ok a) (f : α → Act β) : ofExcept r >>= f = f a := by
  subst h
  rfl

theorem ofExcept_bind_of_error {r : Except Failure α} {e : Failure} (h : r = .error e) (f : α → Act β) :
    ofExcept r >>= f = fail e := by
  subst h
  rfl

theorem bind_assoc {γ : Type} (x : Act α) (f : α → Act β) (g : β → Act γ) :
    x >>= f >>= g = x >>= fun a => f a >>= g := by
  cases hx : x.result with
  | error e => rw [bind_eq_of_error hx, bind_eq_of_error hx, bind_eq_of_error rfl]
  | ok a =>
    rw [bind_eq_of_ok hx, bind_eq_of_ok hx]
    cases hf : (f a).result with
    | error e => rw [bind_eq_of_error hf, bind_eq_of_error rfl]
    | ok b => rw [bind_eq_of_ok hf, bind_eq_of_ok rfl, List.append_assoc]

theorem bind_pure (x : Act α) : x >>= pure = x := by
  obtain ⟨trace, result⟩ := x
  cases result with
  | error e => rfl
  | ok a =>
    rw [bind_eq_of_ok rfl]
    exact congrArg (Act.mk · (.ok a)) (List.append_nil trace)

instance : LawfulMonad Act := LawfulMonad.mk' Act bind_pure (fun _ _ => rfl) bind_assoc

/-- an action with a result is followed by the next one -/
theorem calls_bind_of_ok {x : Act α} {a : α} (h : x.result = .ok a) (f : α → Act β) :
    (x >>= f).calls = x.calls ++ (f a).calls := by
  rw [bind_eq_of_ok h, calls, List.filterMap_append]
  rfl

/-- an action that fails is the last one -/
theorem calls_bind_of_error {x : Act α} {e : Failure} (h : x.result = .error e) (f : α → Act β) :
    (x >>= f).calls = x.calls := by
  rw [bind_eq_of_error h]
  rfl

/-! ## Read backwards -/

theorem result_bind_eq_ok {x : Act α} {f : α → Act β} {b : β} (h : (x >>= f).result = .ok b) :
    ∃ a, x.result = .ok a ∧ (f a).result = .ok b := by
  cases hx : x.result with
  | error e =>
    rw [result_bind_of_error hx] at h
    cases h
  | ok a => exact ⟨a, rfl, (result_bind_of_ok hx f).symm.trans h⟩

/-! ## Actions that run no command -/

@[simp] theorem result_note_bind (level : Level) (text : String) (f : Unit → Act β) :
    (note level text >>= f).result = (f ()).result :=
  result_bind_of_ok rfl f

@[simp] theorem calls_note_bind (level : Level) (text : String) (f : Unit → Act β) :
    (note level text >>= f).calls = (f ()).calls :=
  calls_bind_of_ok (result_note level text) f

/-- what never fails only turns the result of the action before it into another one -/
theorem result_bind_eq_map {x : Act α} {f : α → Act β} {g : α → β} (h : ∀ a, (f a).result = .ok (g a)) :
    (x >>= f).result = x.result.map g := by
  rw [result_bind]
  cases x.result with
  | error e => rfl
  | ok a => exact h a

theorem calls_bind_of_silent {x : Act α} {f : α → Act β} (h : ∀ a, (f a).calls = []) : (x >>= f).calls = x.calls := by
  cases hx : x.result with
  | error e => exact calls_bind_of_error hx f
  | ok a => rw [calls_bind_of_ok hx, h, List.append_nil]

/-! ## Actions for the items of a list -/

variable {f : α → Act β} {as before after : List α} {a : α} {e : Failure}

theorem each_cons (f : α → Act β) (a : α) (as : List α) :
    each f (a :: as) = f a >>= fun b => each f as >>= fun bs => pure (b :: bs) := rfl

/-- **They end** as a traversal of their results does -/
theorem result_each (f : α → Act β) (as : List α) : (each f as).result = as.mapM fun a => (f a).result := by
  induction as with
  | nil => rfl
  | cons a as ih =>
    rw [List.mapM_cons, ← ih, each_cons, result_bind]
    cases (f a).result with
    | error e => rfl
    | ok b => exact result_bind (each f as) _

/-- **They succeed** with the results of each of them -/
theorem result_each_eq_ok {bs : List β} (h : (each f as).result = .ok bs) :
    List.Forall₂ (fun a b => (f a).result = .ok b) as bs :=
  mapM_eq_ok.1 ((result_each f as).symm.trans h)

/-- each result is that of an item -/
theorem exists_of_mem_each {bs : List β} {b : β} (h : (each f as).result = .ok bs) (hb : b ∈ bs) :
    ∃ a ∈ as, (f a).result = .ok b :=
  exists_mem_of_forall₂ (R := fun a b => (f a).result = .ok b) (result_each_eq_ok h) hb

/-- when none fails, what is observed of them is observed one after the other, -/
theorem trace_each_of_ok (h : ∀ a ∈ as, ∃ b, (f a).result = .ok b) :
    (each f as).trace = as.flatMap fun a => (f a).trace := by
  induction as with
  | nil => rfl
  | cons a as ih =>
    obtain ⟨b, hb⟩ := h a List.mem_cons_self
    have has : ∀ a' ∈ as, ∃ b, (f a').result = .ok b := fun a' ha' => h a' (List.mem_cons_of_mem a ha')
    obtain ⟨bs, hbs⟩ := exists_mapM_eq_ok.2 has
    have hrest : (each f as).result = .ok bs := (result_each f as).trans hbs
    rw [each_cons, bind_eq_of_ok hb, bind_eq_of_ok hrest, ih has]
    exact congrArg ((f a).trace ++ ·) (List.append_nil _)

/-- and each runs its commands -/
theorem calls_each_of_ok (h : ∀ a ∈ as, ∃ b, (f a).result = .ok b) :
    (each f as).calls = as.flatMap fun a => (f a).calls := by
  rw [calls, trace_each_of_ok h, List.filterMap_flatMap]
  rfl

/-- behind one that fails none is begun -/
theorem calls_each_of_error (hbefore : ∀ a' ∈ before, ∃ b, (f a').result = .ok b) (ha : (f a).result = .error e) :
    (each f (before ++ a :: after)).calls = (before ++ [a]).flatMap fun a => (f a).calls := by
  induction before with
  | nil =>
    rw [List.nil_append, each_cons, calls_bind_of_error ha, List.nil_append, List.flatMap_singleton]
  | cons a' before ih =>
    obtain ⟨b, hb⟩ := hbefore a' List.mem_cons_self
    rw [List.cons_append, each_cons, calls_bind_of_ok hb, calls_bind_of_silent (fun _ => calls_pure _),
      ih fun a'' ha'' => hbefore a'' (List.mem_cons_of_mem a' ha'')]
    rfl

end ChangeLint.Act
