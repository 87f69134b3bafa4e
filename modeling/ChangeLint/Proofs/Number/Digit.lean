/-
Decimal digits and the numbers that they write.

- `isBlank_eq_false_of_isDigit`: no digit of any script is a blank, so a number has no margin of its own;
- `readInt_digits`, `exists_readInt_digits_iff`: a text of digits alone is read as their number, unless it is empty or too
  long;
- `ofDigits_toDigits`: the decimal text of a number writes that number.
-/
import ChangeLint.Number.Text
import Mathlib.Tactic

namespace ChangeLint.Text

/-! ## Digits and other classes -/

/-- the digits of a script are ten, and none of them is a blank -/
theorem isBlank_eq_false_of_zeros : ∀ z ∈ zeros, ∀ k < 10, ∀ c : Char, c.toNat = z + k → isBlank c = false := by
  intro z hz k hk c hc
  simp only [isBlank, hc]
  clear hc c
  revert k
  revert z
  decide

theorem isBlank_eq_false_of_isDigit {c : Char} (h : isDigit c = true) : isBlank c = false := by
  rw [isDigit, digitValue?, Option.isSome_map] at h
  obtain ⟨z, hz⟩ := Option.isSome_iff_exists.1 h
  have hmem := List.mem_of_find?_eq_some hz
  have hrange := List.find?_some hz
  simp only [Bool.and_eq_true, decide_eq_true_eq] at hrange
  exact isBlank_eq_false_of_zeros z hmem (c.toNat - z) (by omega) c (by omega)

/-- a character that is no digit, by evaluation, is none of a text's digits -/
theorem ne_of_isDigit {c d : Char} (hc : isDigit c = true) (hd : isDigit d = false) : c ≠ d := by
  rintro rfl
  rw [hc] at hd
  exact absurd hd (by decide)

theorem isDigit_of_isDigit_ascii {c : Char} (h : c.isDigit = true) : isDigit c = true := by
  simp only [Char.isDigit, ge_iff_le, Bool.and_eq_true, decide_eq_true_eq, UInt32.le_iff_toNat_le] at h
  exact isDigit_of_ascii h

/-! ## The number that digits write -/

theorem digitValue?_of_ascii {c : Char} (h : c.isDigit = true) : digitValue? c = some (c.toNat - 48) := by
  simp only [Char.isDigit, ge_iff_le, Bool.and_eq_true, decide_eq_true_eq, UInt32.le_iff_toNat_le] at h
  have h1 : 48 ≤ c.toNat := h.1
  have h2 : c.toNat ≤ 57 := h.2
  simp [digitValue?, zeros, h1, h2]

/-- zeros in front do not count -/
theorem ofDigits_replicate_zero (n : Nat) (ds : List Char) : ofDigits (List.replicate n '0' ++ ds) = ofDigits ds := by
  induction n with
  | zero => rfl
  | succ n ih =>
    rw [List.replicate_succ, List.cons_append, ← ih]
    rfl

/-- ASCII digits write the number that the library reads from them -/
theorem ofDigits_eq_ofDigitChars {ds : List Char} (h : ∀ c ∈ ds, c.isDigit = true) :
    ofDigits ds = Nat.ofDigitChars 10 ds 0 := by
  rw [ofDigits, Nat.ofDigitChars]
  refine List.foldl_ext _ _ _ fun n c hc => ?_
  rw [digitValue?_of_ascii (h c hc), Option.getD_some, Nat.mul_comm]
  rfl

theorem isDigit_of_mem_toDigits {n : Nat} {c : Char} (h : c ∈ Nat.toDigits 10 n) : isDigit c = true :=
  isDigit_of_isDigit_ascii (Nat.isDigit_of_mem_toDigits (by decide) (by decide) h)

theorem toDigits_ne_nil (n : Nat) : Nat.toDigits 10 n ≠ [] := by
  intro h
  have hpos := Nat.length_toDigits_pos (b := 10) (n := n)
  rw [h] at hpos
  exact absurd hpos (by decide)

/-- the decimal text of a number above zero does not begin with a zero -/
theorem head?_toDigits {n : Nat} (h : 0 < n) : (Nat.toDigits 10 n).head? ≠ some '0' := by
  induction n using Nat.strong_induction_on with
  | _ n ih =>
    rw [Nat.toDigits_eq_if (by decide)]
    split
    · interval_cases n <;> decide
    · rw [List.head?_append_of_ne_nil _ (toDigits_ne_nil _)]
      exact ih (n / 10) (by omega) (by omega)

/-- **The decimal text of a number writes that number** -/
theorem ofDigits_toDigits (n : Nat) : ofDigits (Nat.toDigits 10 n) = n := by
  rw [ofDigits_eq_ofDigitChars fun c hc => Nat.isDigit_of_mem_toDigits (by decide) (by decide) hc]
  exact Nat.ofDigitChars_ten_toDigits

theorem digitValue?_lt (c : Char) : (digitValue? c).getD 0 < 10 := by
  unfold digitValue?
  cases hfind : zeros.find? fun z => z ≤ c.toNat && c.toNat ≤ z + 9 with
  | none => simp
  | some z =>
    have hrange := List.find?_some hfind
    simp only [Bool.and_eq_true, decide_eq_true_eq] at hrange
    simp only [Option.map_some, Option.getD_some]
    omega

/-- digits write a number of no more digits -/
theorem ofDigits_lt (ds : List Char) : ofDigits ds < 10 ^ ds.length := by
  induction ds using List.reverseRecOn with
  | nil => decide
  | append_singleton ds c ih =>
    have hvalue := digitValue?_lt c
    have hstep : ofDigits (ds ++ [c]) = ofDigits ds * 10 + (digitValue? c).getD 0 := by
      rw [ofDigits, List.foldl_append]
      rfl
    rw [hstep, List.length_append, List.length_singleton, pow_succ]
    omega

end ChangeLint.Text

namespace ChangeLint.Number

open ChangeLint.Text

/-! ## Reading digits -/

/-- a number of no more digits than the limit is read back -/
theorem ofDigits_toDigits {n : Nat} (h : n < 10 ^ digitLimit) : ofDigits (Nat.toDigits 10 n) = .ok n := by
  have hlen : ¬ digitLimit < (Nat.toDigits 10 n).length := by
    rw [Nat.not_lt, Nat.length_toDigits_le_iff (by decide) (by decide)]
    exact h
  rw [ofDigits, if_neg hlen, Text.ofDigits_toDigits]

/-- a number of more digits is refused -/
theorem ofDigits_toDigits_of_le {n : Nat} (h : 10 ^ digitLimit ≤ n) :
    ofDigits (Nat.toDigits 10 n) = .error (.reading (Nat.toDigits 10 n).length) := by
  have hlen : digitLimit < (Nat.toDigits 10 n).length := by
    rw [← Nat.not_le, Nat.length_toDigits_le_iff (by decide) (by decide), Nat.not_lt]
    exact h
  rw [ofDigits, if_pos hlen]

theorem natAbs_lt_of_isTooLong_eq_false {i : Int} (h : isTooLong i = false) : i.natAbs < 10 ^ digitLimit := by
  have hlimit := of_decide_eq_false h
  -- nothing should compute the power
  generalize digitLimit = limit at hlimit ⊢
  exact Nat.not_le.1 hlimit

theorem isTooLong_eq_false {i : Int} (h : i.natAbs < 10 ^ digitLimit) : isTooLong i = false := by
  refine decide_eq_false ?_
  generalize digitLimit = limit at h ⊢
  exact Nat.not_le.2 h

/-- a number that was read is not too long to be written -/
theorem isTooLong_of_ofDigits {ds : List Char} {n : Nat} (h : ofDigits ds = .ok n) (negative : Bool) :
    isTooLong (if negative then -(n : Int) else n) = false := by
  unfold ofDigits at h
  split_ifs at h with hlong
  cases h
  refine isTooLong_eq_false ?_
  have hnatAbs : (if negative = true then -(Text.ofDigits ds : Int) else Text.ofDigits ds).natAbs = Text.ofDigits ds := by
    cases negative <;> simp
  rw [hnatAbs]
  exact (Text.ofDigits_lt ds).trans_le (Nat.pow_le_pow_right (by decide) (Nat.not_lt.1 hlong))

theorem isTooLong_of_readInt {s : String} {i : Int} (h : readInt s = .ok i) : isTooLong i = false := by
  unfold readInt at h
  dsimp only at h
  split at h
  · cases h
  · split at h
    · cases h
    · rename_i n hn
      split at h
      · rw [← Except.ok.inj h]
        exact isTooLong_of_ofDigits hn _
      · cases h

theorem isMargin_eq_false_of_isDigit {c : Char} (h : isDigit c = true) : isMargin c = false := by
  have hblank := isBlank_eq_false_of_isDigit h
  have hspace : c ≠ ' ' := ne_of_isDigit h (by decide)
  rw [isMargin, hblank, Bool.and_false, Bool.or_false]
  simp only [isBlank, Bool.or_eq_false_iff, Bool.and_eq_false_iff, decide_eq_false_iff_not] at hblank
  simp only [hspace, decide_false, Bool.false_or, Bool.and_eq_false_iff, decide_eq_false_iff_not]
  exact hblank.1.1.1.1.1.1.1.1.1.1

theorem digitRun_digits {ds : List Char} (h : ∀ c ∈ ds, isDigit c = true) (after : Bool) :
    digitRun after ds = (ds, []) := by
  induction ds generalizing after with
  | nil => rfl
  | cons d ds ih =>
    have hd := h d List.mem_cons_self
    simp only [digitRun, hd, ite_true, ih fun c hc => h c (List.mem_cons_of_mem d hc)]

theorem readSign_digits {ds : List Char} (h : ∀ c ∈ ds, isDigit c = true) : readSign ds = (false, ds) := by
  unfold readSign
  split
  · exact absurd (h '-' List.mem_cons_self) (by decide)
  · exact absurd (h '+' List.mem_cons_self) (by decide)
  · rfl

/-- **A text of digits is read as their number**, unless there is none or there are too many -/
theorem readInt_digits {ds : List Char} (h : ∀ c ∈ ds, isDigit c = true) (hne : ds ≠ []) :
    readInt (String.ofList ds) = match ofDigits ds with
      | .error e => .error (.tooLong e)
      | .ok n => .ok (n : Int) := by
  have hdrop : ds.dropWhile isMargin = ds := by
    obtain ⟨d, rest, rfl⟩ := List.exists_cons_of_ne_nil hne
    rw [List.dropWhile_cons_of_neg]
    rw [isMargin_eq_false_of_isDigit (h d List.mem_cons_self)]
    exact Bool.false_ne_true
  simp only [readInt, String.toList_ofList, hdrop, readSign_digits h, digitRun_digits h]
  rw [if_neg (by simpa using hne)]
  cases ofDigits ds <;> rfl

/-- a text of digits is read as a number when it is not too long, and only then -/
theorem exists_readInt_digits_iff {ds : List Char} (h : ∀ c ∈ ds, isDigit c = true) (hne : ds ≠ []) :
    (∃ n, readInt (String.ofList ds) = .ok n) ↔ ds.length ≤ digitLimit := by
  rw [readInt_digits h hne, ofDigits]
  by_cases hlen : digitLimit < ds.length
  · rw [if_pos hlen]
    exact ⟨fun ⟨_, hn⟩ => absurd hn (by simp), fun hle => absurd hlen (Nat.not_lt.2 hle)⟩
  · rw [if_neg hlen]
    exact ⟨fun _ => Nat.not_lt.1 hlen, fun _ => ⟨_, rfl⟩⟩

end ChangeLint.Number
