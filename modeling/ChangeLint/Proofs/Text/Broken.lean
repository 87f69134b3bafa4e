/-
Broken texts, and what is settled of them.

Two characters stand for each half, and they differ. So what is written of a text is the same with either if and only if no half
is in it.

Results:
- `chars?_eq_some_iff`, `exists_half`: a text is its characters, or holds a half;
- `settled_eq_ok_iff`: what is settled is written in the same way with both characters;
- `exists_settled_shown_iff`: a text is settled if it is whole, and only then.
-/
import ChangeLint.Failure
import Mathlib.Tactic

namespace ChangeLint

namespace Text

variable {ss : List Sign} {cs : List Char} {s : String}

/-! ## Signs -/

theorem chars?_cons (x : Sign) (ss : List Sign) : chars? (x :: ss) = x.char?.bind fun c => (chars? ss).map (c :: ·) := by
  simp only [chars?, List.mapM_cons]
  cases x.char? <;> cases ss.mapM Sign.char? <;> rfl

theorem chars?_eq_some_iff : chars? ss = some cs ↔ ss = signs cs := by
  constructor
  · intro h
    induction ss generalizing cs with
    | nil =>
      cases h
      rfl
    | cons x ss ih =>
      rw [chars?_cons] at h
      cases x with
      | half => cases h
      | char c =>
        obtain ⟨ds, hds, rfl⟩ := Option.map_eq_some_iff.1 h
        rw [ih hds]
        rfl
  · rintro rfl
    exact chars?_signs cs

theorem exists_half (h : chars? ss = none) : ∃ x, Sign.half x ∈ ss := by
  induction ss with
  | nil => cases h
  | cons x ss ih =>
    cases x with
    | half x => exact ⟨x, List.mem_cons_self⟩
    | char c =>
      rw [chars?_cons] at h
      obtain ⟨x, hx⟩ := ih (Option.map_eq_none_iff.1 h)
      exact ⟨x, List.mem_cons_of_mem _ hx⟩

/-! ## What stands for halves -/

theorem toNat_ofNat_of_valid {n : Nat} (h : 0xdfff < n ∧ n < 0x110000) : (Char.ofNat n).toNat = n := by
  have hvalid : n.isValidChar := Or.inr h
  rw [Char.ofNat, dif_pos hvalid]
  exact UInt32.toNat_ofNatLT ..

theorem lowStand_ne_highStand (x : Half) : lowStand x ≠ highStand x := by
  intro h
  have hcode := congrArg Char.toNat h
  have hle := x.isHalf.2
  rw [lowStand, highStand, toNat_ofNat_of_valid (by omega), toNat_ofNat_of_valid (by omega)] at hcode
  omega

/-- a text is the same with either character for each half exactly if it holds no half -/
theorem map_shown_eq_iff : ss.map (Sign.shown lowStand) = ss.map (Sign.shown highStand) ↔ ∃ cs, ss = signs cs := by
  rw [List.map_inj_left]
  constructor
  · intro h
    cases hss : chars? ss with
    | some cs => exact ⟨cs, chars?_eq_some_iff.1 hss⟩
    | none =>
      obtain ⟨x, hx⟩ := exists_half hss
      have hsame : Sign.shown lowStand (.half x) = Sign.shown highStand (.half x) := h _ hx
      rw [Sign.shown, Sign.shown] at hsame
      exact absurd hsame (lowStand_ne_highStand x)
  · rintro ⟨cs, rfl⟩ x hx
    obtain ⟨c, -, rfl⟩ := List.mem_map.1 hx
    rw [Sign.shown, Sign.shown]

@[simp] theorem map_shown_signs (f : Half → Char) (cs : List Char) : (signs cs).map (Sign.shown f) = cs := by
  simp [signs, Function.comp_def, Sign.shown]

end Text

namespace Failure

open Text

variable {write : (Half → Char) → Except Failure String} {s : String}

/-- **What is settled** is written in the same way with both characters -/
theorem settled_eq_ok_iff : settled write = .ok s ↔ write lowStand = .ok s ∧ write highStand = .ok s := by
  unfold settled
  cases hlow : write lowStand with
  | error e => simp [bind, Except.bind]
  | ok low =>
    cases hhigh : write highStand with
    | error e => simp [bind, Except.bind]
    | ok high =>
      by_cases h : low = high
      · subst h
        simp [bind, Except.bind]
      · simp only [bind, Except.bind, if_neg h, Except.ok.injEq]
        exact ⟨nofun, fun ⟨hl, hr⟩ => absurd (hl.trans hr.symm) h⟩

/-- a text is settled if it is whole, and only then -/
theorem exists_settled_shown_iff {ss : List Sign} :
    (∃ s, settled (fun half => .ok (shown half ss)) = .ok s) ↔ ∃ cs, ss = signs cs := by
  simp only [settled_eq_ok_iff, Except.ok.injEq, shown, ← @map_shown_eq_iff ss]
  constructor
  · rintro ⟨s, rfl, h⟩
    exact (String.ofList_injective h).symm
  · intro h
    exact ⟨_, rfl, by rw [h]⟩

end Failure

end ChangeLint
