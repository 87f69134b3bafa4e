/-
What actions ensure.

`Ensures x P`: the action `x` takes no step on a connection, and its result, if it has one, satisfies `P`. What comes after an
action may rely on what that ensures (`Ensures.bind`), so both can be read off the parts of an action.
-/
import ChangeLint.Command.Basic
import ChangeLint.Proofs.Act

namespace ChangeLint.Act

variable {α β : Type} {P : α → Prop} {Q : β → Prop} {x : Act α} {a : α} {f : α → Act β}

/-- an action takes no step on a connection, and what it results in has a property -/
structure Ensures (x : Act α) (P : α → Prop) : Prop where
  signals : x.signals = []
  result : ∀ a, x.result = .ok a → P a

/-! ## Steps on connections -/

theorem signals_bind_of_ok (h : x.result = .ok a) (f : α → Act β) : (x >>= f).signals = x.signals ++ (f a).signals := by
  rw [bind_eq_of_ok h, signals, List.filterMap_append]
  rfl

theorem signals_bind_of_error {e : Failure} (h : x.result = .error e) (f : α → Act β) : (x >>= f).signals = x.signals := by
  rw [bind_eq_of_error h]
  rfl

namespace Ensures

/-! ## Single actions -/

theorem pure (h : P a) : Ensures (pure a) P := ⟨rfl, fun _ ha => Except.ok.inj ha ▸ h⟩

theorem fail (f : Failure) (P : α → Prop) : Ensures (fail f) P := ⟨rfl, nofun⟩

theorem ofExcept {r : Except Failure α} (h : ∀ a, r = .ok a → P a) : Ensures (ofExcept r) P := ⟨rfl, h⟩

theorem notes (log : List Entry) : Ensures (notes log) fun _ => True := by
  refine ⟨?_, fun _ _ => trivial⟩
  simp [Act.notes, Act.signals, Event.signal?]

theorem note (level : Level) (text : String) : Ensures (note level text) fun _ => True := ⟨rfl, fun _ _ => trivial⟩

theorem run (c : Commands) (argv : List String) : Ensures (c.run argv) fun _ => True := ⟨rfl, fun _ _ => trivial⟩

theorem stream (c : Commands) (argv : List String) : Ensures (c.stream argv) fun _ => True := ⟨rfl, fun _ _ => trivial⟩

/-! ## Actions one after another -/

/-- **What comes after an action may rely on what that ensures** -/
theorem bind (h : Ensures x P) (hf : ∀ a, P a → Ensures (f a) Q) : Ensures (x >>= f) Q := by
  cases hx : x.result with
  | error e =>
    refine ⟨(signals_bind_of_error hx f).trans h.signals, fun b hb => ?_⟩
    rw [result_bind_of_error hx] at hb
    cases hb
  | ok a =>
    have hrest := hf a (h.result a hx)
    constructor
    · rw [signals_bind_of_ok hx, h.signals, hrest.signals]
      rfl
    · intro b hb
      rw [result_bind_of_ok hx] at hb
      exact hrest.result b hb

/-- an action after one whose result does not count -/
theorem after (h : Ensures x P) (hf : ∀ a, Ensures (f a) Q) : Ensures (x >>= f) Q := h.bind fun a _ => hf a

/-- a handler ensures what the action would have -/
theorem handle {g : Failure → Act α} (h : Ensures x P) (hg : ∀ e, Ensures (g e) P) : Ensures (x.handle g) P := by
  unfold Act.handle
  cases hx : x.result with
  | ok a => exact h
  | error e =>
    refine ⟨?_, (hg e).result⟩
    have hsignals : (⟨x.trace ++ (g e).trace, (g e).result⟩ : Act α).signals = x.signals ++ (g e).signals :=
      List.filterMap_append
    rw [hsignals, h.signals, (hg e).signals]
    rfl

/-- actions for the items of a list ensure of each result what each of them ensures -/
theorem each {f : α → Act β} {as : List α} (h : ∀ a ∈ as, Ensures (f a) Q) :
    Ensures (Act.each f as) fun bs => ∀ b ∈ bs, Q b := by
  induction as with
  | nil => exact pure fun _ hb => nomatch hb
  | cons a as ih =>
    refine bind (h a List.mem_cons_self) fun b hb => ?_
    refine bind (ih fun a' ha' => h a' (List.mem_cons_of_mem a ha')) fun bs hbs => ?_
    exact pure (List.forall_mem_cons.2 ⟨hb, hbs⟩)

end Ensures

end ChangeLint.Act
