/-
Actions that ask for the answers of commands.

`Asks c argvs x a`: the action `x` runs the commands `argvs` in order, up to the first that fails. If one fails, the
action fails with the failure of this command; else its result is `a`. What comes after such an action is asked after it
(`Asks.bind`), so the commands of an analysis can be read off its parts.
-/
import ChangeLint.Command.Basic
import ChangeLint.Proofs.Act

namespace ChangeLint

namespace Commands

/-- what a command prints, nothing if it fails -/
def printed (c : Commands) (argv : List String) : String := (c.output argv).toOption.getD ""

/-- of commands that are to be run in order those that are run: all up to the first that fails -/
def upToFailure (c : Commands) : List (List String) → List (List String)
  | [] => []
  | argv :: argvs => match c.output argv with
    | .ok _ => argv :: c.upToFailure argvs
    | .error _ => [argv]

/-- the failure of the first command that fails -/
def firstFailure? (c : Commands) : List (List String) → Option Failure
  | [] => none
  | argv :: argvs => match c.output argv with
    | .ok _ => c.firstFailure? argvs
    | .error f => some f

variable {c : Commands} {as bs : List (List String)} {f : Failure}

theorem firstFailure?_append : c.firstFailure? (as ++ bs) = (c.firstFailure? as).or (c.firstFailure? bs) := by
  induction as with
  | nil => rfl
  | cons a as ih =>
    rw [List.cons_append, firstFailure?, firstFailure?]
    cases c.output a with
    | error f => rfl
    | ok s => exact ih

/-- when none fails, all are run -/
theorem upToFailure_eq_self (h : c.firstFailure? as = none) : c.upToFailure as = as := by
  induction as with
  | nil => rfl
  | cons a as ih =>
    rw [firstFailure?] at h
    rw [upToFailure]
    cases ha : c.output a with
    | error f => simp [ha] at h
    | ok s =>
      rw [ha] at h
      exact congrArg (a :: ·) (ih h)

theorem upToFailure_append_of_none (h : c.firstFailure? as = none) : c.upToFailure (as ++ bs) = as ++ c.upToFailure bs := by
  induction as with
  | nil => rfl
  | cons a as ih =>
    rw [firstFailure?] at h
    rw [List.cons_append, upToFailure]
    cases ha : c.output a with
    | error f => simp [ha] at h
    | ok s =>
      rw [ha] at h
      exact congrArg (a :: ·) (ih h)

/-- behind a command that fails nothing is run -/
theorem upToFailure_append_of_some (h : c.firstFailure? as = some f) : c.upToFailure (as ++ bs) = c.upToFailure as := by
  induction as with
  | nil => cases h
  | cons a as ih =>
    rw [firstFailure?] at h
    rw [List.cons_append, upToFailure, upToFailure]
    cases ha : c.output a with
    | error g => rfl
    | ok s =>
      rw [ha] at h
      exact congrArg (a :: ·) (ih h)

end Commands

/-- an action runs commands in order until one fails; without a failure it has a result -/
structure Asks {α : Type} (c : Commands) (argvs : List (List String)) (x : Act α) (a : α) : Prop where
  calls : x.calls = c.upToFailure argvs
  result : x.result = match c.firstFailure? argvs with
    | some f => .error f
    | none => .ok a

namespace Asks

variable {α β : Type} {c : Commands} {as bs : List (List String)} {x : Act α} {a : α} {b : β}

/-- an action that runs nothing and has a result -/
theorem of_silent (hresult : x.result = .ok a) (hcalls : x.calls = []) : Asks c [] x a := ⟨hcalls, hresult⟩

theorem pure (a : α) : Asks c [] (Pure.pure a : Act α) a := of_silent rfl rfl

theorem run (c : Commands) (argv : List String) : Asks c [argv] (c.run argv) (c.printed argv) := by
  constructor
  · rw [Commands.upToFailure]
    cases c.output argv <;> rfl
  · rw [Commands.firstFailure?, Commands.printed, Commands.run]
    cases c.output argv <;> rfl

/-- **What follows an action is asked after it**, unless a command has failed -/
theorem bind {f : α → Act β} (hx : Asks c as x a) (hf : Asks c bs (f a) b) : Asks c (as ++ bs) (x >>= f) b := by
  have hresult := hx.result
  cases has : c.firstFailure? as with
  | some e =>
    rw [has] at hresult
    constructor
    · rw [Act.calls_bind_of_error hresult, hx.calls, Commands.upToFailure_append_of_some has]
    · rw [Act.result_bind_of_error hresult, Commands.firstFailure?_append, has]
      rfl
  | none =>
    rw [has] at hresult
    constructor
    · rw [Act.calls_bind_of_ok hresult, hx.calls, hf.calls, Commands.upToFailure_eq_self has,
        Commands.upToFailure_append_of_none has]
    · rw [Act.result_bind_of_ok hresult, Commands.firstFailure?_append, has]
      exact hf.result

/-- what follows without running anything -/
theorem map {f : α → Act β} (hx : Asks c as x a) (hf : Asks c [] (f a) b) : Asks c as (x >>= f) b := by
  have h := hx.bind hf
  rwa [List.append_nil] at h

/-- an action for each item asks for the commands of one item after those of the other -/
theorem each {ι : Type} {f : ι → Act β} {g : ι → β} {argvs : ι → List (List String)} {is : List ι}
    (h : ∀ i ∈ is, Asks c (argvs i) (f i) (g i)) : Asks c (is.flatMap argvs) (Act.each f is) (is.map g) := by
  induction is with
  | nil => exact pure []
  | cons i is ih =>
    have hrest := ih fun j hj => h j (List.mem_cons_of_mem i hj)
    exact (h i List.mem_cons_self).bind (hrest.map (pure _))

end Asks

end ChangeLint
