/-
What can be written out.

Writing out a datum takes more of the stack the deeper it is nested, and an integer in it must not be too long. `CanBeWritten`
says that neither stands in the way, `Unwritable` what does. Nothing else does (`canBeWritten_or_unwritable`), and not both at
once (`CanBeWritten.not_unwritable`).
-/
import ChangeLint.Finding.Basic
import ChangeLint.Proofs.Except

namespace ChangeLint

variable [Interpreter]

/-- a datum can be written out: the stack is large enough for it, and no integer in it is too long -/
structure CanBeWritten (d : Datum) : Prop where
  room : Interpreter.unwritten? .literal d = none
  short : d.hasLongInt = false

/-- what stands in the way of writing out a datum -/
inductive Unwritable (d : Datum) : Failure → Prop
  | tooDeep {m : String} (h : Interpreter.unwritten? .literal d = some m) : Unwritable d (.exhausted m)
  | tooLong (hroom : Interpreter.unwritten? .literal d = none) (h : d.hasLongInt = true) : Unwritable d (.tooLong .writing)

variable {d : Datum} {f : Failure}

/-- a datum that is nested little is written out unless an integer in it is too long -/
theorem canBeWritten_of_shallow (hdepth : d.depth ≤ Interpreter.shallow) (hshort : d.hasLongInt = false) : CanBeWritten d :=
  ⟨Interpreter.unwritten_shallow hdepth, hshort⟩

theorem canBeWritten_text (text : String) : CanBeWritten (.text text) := canBeWritten_of_shallow (Nat.zero_le _) rfl

theorem CanBeWritten.not_unwritable (h : CanBeWritten d) : ¬ Unwritable d f := by
  intro hf
  cases hf with
  | tooDeep hroom =>
    rw [h.room] at hroom
    cases hroom
  | tooLong _ hlong =>
    rw [h.short] at hlong
    cases hlong

theorem canBeWritten_or_unwritable (d : Datum) : CanBeWritten d ∨ ∃ f, Unwritable d f := by
  cases hroom : Interpreter.unwritten? .literal d with
  | some m => exact .inr ⟨_, .tooDeep hroom⟩
  | none =>
    cases hshort : d.hasLongInt with
    | false => exact .inl ⟨hroom, hshort⟩
    | true => exact .inr ⟨_, .tooLong hroom hshort⟩

namespace Finding

/-- **What can be written out is written** as its signs -/
theorem written_eq_ok_iff {e : Datum} : written d = .ok e ↔ CanBeWritten d ∧ e = .ofSigns d.signs := by
  unfold written Datum.written
  cases hroom : Interpreter.unwritten? .literal d with
  | some m =>
    refine iff_of_false nofun fun h => ?_
    rw [h.1.room] at hroom
    cases hroom
  | none =>
    dsimp only
    split_ifs with hlong
    · refine iff_of_false nofun fun h => ?_
      rw [h.1.short] at hlong
      cases hlong
    · refine ⟨fun h => ⟨⟨hroom, by simpa using hlong⟩, (Except.ok.inj h).symm⟩, fun h => ?_⟩
      rw [h.2]
      rfl

theorem written_eq_error_iff : written d = .error f ↔ Unwritable d f := by
  unfold written Datum.written
  cases hroom : Interpreter.unwritten? .literal d with
  | some m =>
    refine ⟨fun h => Except.error.inj h ▸ .tooDeep hroom, fun h => ?_⟩
    cases h with
    | tooDeep h => rw [Option.some.inj (hroom.symm.trans h)]
    | tooLong h => simp [hroom] at h
  | none =>
    dsimp only
    split_ifs with hlong
    · refine ⟨fun h => Except.error.inj h ▸ .tooLong hroom hlong, fun h => ?_⟩
      cases h with
      | tooDeep h => simp [hroom] at h
      | tooLong => rfl
    · refine ⟨nofun, fun h => ?_⟩
      cases h with
      | tooDeep h => simp [hroom] at h
      | tooLong _ h => exact absurd h hlong

end Finding

end ChangeLint
