/-
Texts and integers in JSON are read back from what is written of them, whatever stands behind them.

- `stringBody_escapeChar` is the step of a text: what is written of a character is read as this character;
- `stringBody_flatMap` is the run, up to the closing quote;
- `scalar_showInt`: an integer that is not too long is read up to a character that does not go on with it.
-/
import ChangeLint.Json.Reader
import ChangeLint.Json.Writer
import ChangeLint.Proofs.Number.Digit

namespace ChangeLint.Json

variable {opening start rest ds cs : List Char} {fuel n : Nat}

/-! ## Texts -/

theorem hex4?_hexPadded (h : n < 0x20) : hex4? (Text.hexPadded 4 n ++ rest) = some (n, rest) := by
  interval_cases n <;> rfl

/-- the code of a control character is read as this character, if anything follows -/
theorem codeEscape_hexPadded (h : n < 0x20) (hrest : rest ≠ []) :
    codeEscape (Text.hexPadded 4 n ++ rest) = .ok (.char (Char.ofNat n), rest) := by
  have hempty : rest.isEmpty = false := by simpa using hrest
  simp only [codeEscape, hex4?_hexPadded h, hempty, Bool.false_eq_true, ite_false]
  rw [if_neg (by omega), Text.Sign.ofCode, dif_neg (by omega)]

/-- **What is written of a character is read as this character** -/
theorem stringBody_escapeChar (c : Char) (hrest : rest ≠ []) :
    stringBody opening (fuel + 1) (escapeChar c ++ rest) =
      (stringBody opening fuel rest).map fun r => (.char c :: r.1, r.2) := by
  unfold escapeChar
  split_ifs with hquote hslash hbreak hreturn htab hfeed hback hcontrol
  · subst hquote; rfl
  · subst hslash; rfl
  · subst hbreak; rfl
  · subst hreturn; rfl
  · subst htab; rfl
  · subst hfeed; rfl
  · subst hback; rfl
  · have hcode := codeEscape_hexPadded hcontrol hrest
    rw [Char.ofNat_toNat] at hcode
    simp only [List.cons_append, stringBody, ite_true, hcode]
    rfl
  · simp only [List.cons_append, List.nil_append, stringBody, hquote, hslash, hcontrol, ite_false]

/-- a text is read back up to its closing quote -/
theorem stringBody_flatMap (h : cs.length < fuel) :
    stringBody opening fuel (cs.flatMap escapeChar ++ '"' :: rest) = .ok (Text.signs cs, rest) := by
  induction cs generalizing fuel with
  | nil =>
    obtain ⟨fuel, rfl⟩ := Nat.exists_eq_add_one_of_ne_zero (Nat.ne_of_gt h)
    simp only [List.flatMap_nil, List.nil_append, stringBody, ite_true]
    rfl
  | cons c cs ih =>
    obtain ⟨fuel, rfl⟩ := Nat.exists_eq_add_one_of_ne_zero (Nat.ne_zero_of_lt h)
    rw [List.flatMap_cons, List.append_assoc, stringBody_escapeChar c (by simp), ih (by simpa using h)]
    rfl

/-- a text becomes no shorter when it is written -/
theorem length_le_length_flatMap (cs : List Char) : cs.length ≤ (cs.flatMap escapeChar).length := by
  induction cs with
  | nil => exact Nat.le_refl 0
  | cons c cs ih =>
    have hchar : 0 < (escapeChar c).length := by
      unfold escapeChar
      split_ifs <;> exact Nat.succ_pos _
    rw [List.flatMap_cons, List.length_append, List.length_cons]
    omega

/-! ## Integers -/

/-- true of texts that do not go on with a number -/
def Stops (rest : List Char) : Prop := ∀ c ∈ rest.head?, ¬ ('0' ≤ c ∧ c ≤ '9') ∧ c ≠ '.' ∧ c ≠ 'e' ∧ c ≠ 'E'

theorem stops_nil : Stops [] := by
  intro c hc
  cases hc

theorem digitsOf_append (hds : ∀ c ∈ ds, '0' ≤ c ∧ c ≤ '9') (hrest : Stops rest) : digitsOf (ds ++ rest) = (ds, rest) := by
  have hdigits : ∀ c ∈ ds, (decide ('0' ≤ c) && decide (c ≤ '9')) = true := fun c hc => by simpa using hds c hc
  rw [digitsOf, List.span_eq_takeWhile_dropWhile, List.takeWhile_append_of_pos hdigits, List.dropWhile_append_of_pos hdigits]
  cases rest with
  | nil => simp
  | cons c rest =>
    have hc : (decide ('0' ≤ c) && decide (c ≤ '9')) = false := by simpa using (hrest c rfl).1
    rw [List.takeWhile_cons, List.dropWhile_cons, hc]
    simp

theorem fractionPart_eq_none (h : Stops rest) : fractionPart rest = none := by
  unfold fractionPart
  split
  · exact absurd rfl (h '.' rfl).2.1
  · rfl

theorem exponentPart_eq_none (h : Stops rest) : exponentPart rest = none := by
  cases rest with
  | nil => rfl
  | cons c rest =>
    obtain ⟨-, -, he, hE⟩ := h c rfl
    simp only [exponentPart, he, hE, decide_false, Bool.or_self, Bool.false_eq_true, ite_false]

theorem mem_toDigits_bounds {n : Nat} {c : Char} (h : c ∈ Nat.toDigits 10 n) : '0' ≤ c ∧ c ≤ '9' := by
  have hc := Nat.isDigit_of_mem_toDigits (by decide) (by decide) h
  simp only [Char.isDigit, Bool.and_eq_true, decide_eq_true_eq] at hc
  exact hc

/-- digits that do not begin with a zero are a whole part -/
theorem wholePart_append (hds : ∀ c ∈ ds, '0' ≤ c ∧ c ≤ '9') (hne : ds ≠ []) (hhead : ds.head? ≠ some '0')
    (h : Stops rest) : wholePart (ds ++ rest) = some (ds, rest) := by
  have hdigits := digitsOf_append hds h
  obtain ⟨d, ds, rfl⟩ := List.exists_cons_of_ne_nil hne
  unfold wholePart
  split
  · rename_i after heq
    exact absurd (congrArg List.head? heq) hhead
  · rw [hdigits]

theorem wholePart_toDigits (n : Nat) (h : Stops rest) :
    wholePart (Nat.toDigits 10 n ++ rest) = some (Nat.toDigits 10 n, rest) := by
  rcases Nat.eq_zero_or_pos n with rfl | hn
  · rfl
  · exact wholePart_append (fun c hc => mem_toDigits_bounds hc) (Text.toDigits_ne_nil n) (Text.head?_toDigits hn) h

/-- a whole part alone is an integer, unless it is too long -/
theorem number_of_wholePart {negative : Bool} (hwhole : wholePart cs = some (ds, rest)) (h : Stops rest) :
    number start negative cs = match Number.ofDigits ds with
      | .error e => .error ⟨.tooLong e, start⟩
      | .ok n => .ok (.int (if negative then -(n : Int) else n), rest) := by
  unfold number
  rw [hwhole]
  dsimp only
  rw [fractionPart_eq_none h, Option.getD_none, exponentPart_eq_none h]
  cases Number.ofDigits ds <;> rfl

theorem number_toDigits {negative : Bool} (hn : n < 10 ^ Number.digitLimit) (h : Stops rest) :
    number start negative (Nat.toDigits 10 n ++ rest) = .ok (.int (if negative then -(n : Int) else n), rest) := by
  rw [number_of_wholePart (wholePart_toDigits n h) h, Number.ofDigits_toDigits hn]

/-- the sign of an integer, if it has one, and the digits of its size -/
theorem toList_showInt (i : Int) :
    (Number.showInt i).toList = (if i < 0 then ['-'] else []) ++ Nat.toDigits 10 i.natAbs := by
  rw [Number.showInt, Int.toString_eq_repr, Int.repr_eq_if]
  by_cases h : i < 0
  · have hsize : (-i).toNat = i.natAbs := by omega
    rw [if_neg (by omega), if_pos h, hsize, Nat.repr_eq_ofList_toDigits, String.toList_append, String.toList_ofList,
      String.toList_ofList]
  · have hsize : i.toNat = i.natAbs := by omega
    rw [if_pos (by omega), if_neg h, hsize, Nat.repr_eq_ofList_toDigits, String.toList_ofList]
    rfl

/-- no word has a digit in its first two places -/
theorem find?_words {pre : List Char} {c : Char} (hpre : pre.length < 2) (hc : '0' ≤ c ∧ c ≤ '9') :
    (words.find? fun w => w.1.toList.isPrefixOf (pre ++ c :: cs)) = none := by
  have hwords : (words.all fun w => 2 ≤ w.1.toList.length && w.1.toList.all fun x => !('0' ≤ x && x ≤ '9')) = true := by
    decide
  rw [List.find?_eq_none]
  intro w hw hprefix
  have hword := List.all_eq_true.1 hwords w hw
  rw [Bool.and_eq_true, decide_eq_true_eq, List.all_eq_true] at hword
  obtain ⟨after, hafter⟩ := List.isPrefixOf_iff_prefix.1 hprefix
  have hat : w.1.toList[pre.length]? = some c := by
    rw [← List.getElem?_append_left (by omega), hafter]
    simp
  have hno := hword.2 c (List.mem_of_getElem? hat)
  rw [decide_eq_true hc.1, decide_eq_true hc.2] at hno
  exact absurd hno (by decide)

/-- a digit begins a number -/
theorem scalar_of_digit {c : Char} (hc : '0' ≤ c ∧ c ≤ '9') : scalar (c :: cs) = number (c :: cs) false (c :: cs) := by
  have hwords := @find?_words cs [] c (by decide) hc
  unfold scalar
  rw [List.nil_append] at hwords
  rw [hwords]
  dsimp only
  split
  · rename_i heq
    rw [(List.cons.inj heq).1] at hc
    exact absurd hc (by decide)
  · rfl

/-- a minus in front of a digit begins a negative number -/
theorem scalar_of_minus {c : Char} (hc : '0' ≤ c ∧ c ≤ '9') :
    scalar ('-' :: c :: cs) = number ('-' :: c :: cs) true (c :: cs) := by
  have hwords := @find?_words cs ['-'] c (by decide) hc
  unfold scalar
  rw [List.singleton_append] at hwords
  rw [hwords]
  rfl

/-- **An integer is read back**, if it is not too long -/
theorem scalar_showInt {i : Int} (hi : Number.isTooLong i = false) (h : Stops rest) :
    scalar ((Number.showInt i).toList ++ rest) = .ok (.int i, rest) := by
  have hnumber := fun start negative =>
    @number_toDigits start rest i.natAbs negative (Number.natAbs_lt_of_isTooLong_eq_false hi) h
  obtain ⟨d, ds, hds⟩ := List.exists_cons_of_ne_nil (Text.toDigits_ne_nil i.natAbs)
  have hd : '0' ≤ d ∧ d ≤ '9' := mem_toDigits_bounds (n := i.natAbs) (hds ▸ List.mem_cons_self)
  rw [toList_showInt]
  rw [hds] at hnumber ⊢
  by_cases hneg : i < 0
  · have hvalue : -(i.natAbs : Int) = i := by omega
    rw [if_pos hneg, List.singleton_append, List.cons_append, List.cons_append, scalar_of_minus hd]
    exact (hnumber _ true).trans (by rw [if_pos rfl, hvalue])
  · have hvalue : (i.natAbs : Int) = i := by omega
    rw [if_neg hneg, List.nil_append, List.cons_append, scalar_of_digit hd]
    exact (hnumber _ false).trans (by rw [if_neg Bool.false_ne_true, hvalue])

end ChangeLint.Json
