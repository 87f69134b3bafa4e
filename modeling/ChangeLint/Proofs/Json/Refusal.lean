/-
Why JSON is refused for its numbers.

A reader takes what it reads off the front of its text, so what it leaves is an ending of that text; and where it refuses an
integer as too long, the text holds a run of that many digits (`Within`). One lemma for each reader leads to values, items and
members at once (`within_value`), by induction on the fuel, and to whole texts (`holdsRun_of_read`). That this happens is
`read_of_longRun`. Whatever is read holds no integer that is too long (`hasLongInt_of_read`).
-/
import ChangeLint.Proofs.Except
import ChangeLint.Proofs.Json.RoundTrip

namespace ChangeLint.Json

/-- a run of digits that is too long for an integer -/
structure LongRun (ds : List Char) : Prop where
  digits : ∀ c ∈ ds, '0' ≤ c ∧ c ≤ '9'
  long : Number.digitLimit < ds.length

/-- a text holds a run of digits that an integer is refused for -/
def HoldsRun (cs : List Char) (e : Number.TooLong) : Prop := ∃ ds, ds <:+: cs ∧ LongRun ds ∧ e = .reading ds.length

/-- an error refuses an integer only for a run in the text -/
def Error.Grounded (e : Error) (cs : List Char) : Prop := ∀ t, e.problem = .tooLong t → HoldsRun cs t

/-- what a reader of a text finds: it leaves an ending of the text, or its error is grounded in it -/
def Within {α : Type} (cs : List Char) : Except Error (α × List Char) → Prop
  | .ok r => r.2 <:+ cs
  | .error e => e.Grounded cs

variable {α β : Type} {cs rest : List Char} {x : Except Error (α × List Char)}

/-! ## Readers one after another -/

theorem HoldsRun.mono {e : Number.TooLong} (h : HoldsRun rest e) (hrest : rest <:+ cs) : HoldsRun cs e := by
  obtain ⟨ds, hds, hlong⟩ := h
  exact ⟨ds, hds.trans hrest.isInfix, hlong⟩

theorem Within.mono (h : Within rest x) (hrest : rest <:+ cs) : Within cs x := by
  cases x with
  | ok r => exact List.IsSuffix.trans h hrest
  | error e => exact fun t ht => (h t ht).mono hrest

theorem Within.map {f : α × List Char → β × List Char} (h : Within cs x) (hf : ∀ r, (f r).2 = r.2) :
    Within cs (x.map f) := by
  cases x with
  | ok r => exact (hf r ▸ h : (f r).2 <:+ cs)
  | error e => exact h

/-- what goes on where another reader has stopped stays within the text of both -/
theorem Within.bind {f : α × List Char → Except Error (β × List Char)} (h : Within cs x)
    (hf : ∀ a rest, rest <:+ cs → Within cs (f (a, rest))) : Within cs (x >>= f) := by
  cases x with
  | ok r => exact hf r.1 r.2 h
  | error e => exact h

theorem skip_suffix (cs : List Char) : skip cs <:+ cs := List.dropWhile_suffix _

/-- what stands behind the first visible character -/
theorem suffix_of_skip {c : Char} (h : skip cs = c :: rest) : rest <:+ cs :=
  (List.suffix_cons c rest).trans (h ▸ skip_suffix cs)

/-! ## Texts -/

theorem suffix_of_hex4? {n : Nat} (h : hex4? cs = some (n, rest)) : rest <:+ cs := by
  unfold hex4? at h
  split at h
  · split at h
    · cases h
      exact ⟨[_, _, _, _], rfl⟩
    · cases h
  · cases h

/-- an error that is about no number is grounded -/
theorem grounded_of_ne {p : Problem} (h : ∀ t, p ≠ .tooLong t) : Error.Grounded ⟨p, rest⟩ cs := fun t ht => absurd ht (h t)

theorem lowHalf?_cases (cs : List Char) :
    (∃ e, lowHalf? cs = .error e ∧ e.Grounded cs) ∨ lowHalf? cs = .ok none ∨
      ∃ low rest, lowHalf? cs = .ok (some (low, rest)) ∧ rest <:+ cs := by
  unfold lowHalf?
  split
  · rename_i digits
    split_ifs
    · exact Or.inr (Or.inl rfl)
    · cases h : hex4? digits with
      | none => exact Or.inl ⟨_, rfl, grounded_of_ne (by simp)⟩
      | some r =>
        dsimp only
        split_ifs
        · have hrest : r.2 <:+ digits := suffix_of_hex4? h
          exact Or.inr (Or.inr ⟨_, _, rfl, hrest.trans (List.suffix_append ['\\', 'u'] digits)⟩)
        · exact Or.inr (Or.inl rfl)
  · exact Or.inr (Or.inl rfl)

theorem within_codeEscape (digits : List Char) : Within digits (codeEscape digits) := by
  unfold codeEscape
  cases h : hex4? digits with
  | none => exact grounded_of_ne (by simp)
  | some r =>
    obtain ⟨n, rest⟩ := r
    have hrest : rest <:+ digits := suffix_of_hex4? h
    dsimp only
    split_ifs
    · exact grounded_of_ne (by simp)
    · rcases lowHalf?_cases rest with ⟨e, he, hgrounded⟩ | hnone | ⟨low, after, hlow, hafter⟩
      · rw [he]
        exact fun t ht => (hgrounded t ht).mono hrest
      · rw [hnone]
        exact hrest
      · rw [hlow]
        exact hafter.trans hrest
    · exact hrest

theorem within_stringBody (opening : List Char) (fuel : Nat) (cs : List Char) : Within cs (stringBody opening fuel cs) := by
  induction fuel generalizing cs with
  | zero => exact grounded_of_ne (by simp)
  | succ fuel ih =>
    cases cs with
    | nil => exact grounded_of_ne (by simp)
    | cons c cs =>
      have hcs : cs <:+ c :: cs := List.suffix_cons c cs
      simp only [stringBody]
      split_ifs
      · exact hcs
      · split
        · exact grounded_of_ne (by simp)
        · rename_i digits
          have hdigits : digits <:+ c :: 'u' :: digits := List.suffix_append [c, 'u'] digits
          have hcode := within_codeEscape digits
          split
          · rename_i e he
            rw [he] at hcode
            exact Within.mono hcode hdigits
          · rename_i d rest hd
            rw [hd] at hcode
            exact Within.mono (Within.map (ih rest) fun _ => rfl) (List.IsSuffix.trans hcode hdigits)
        · rename_i e rest _
          split
          · exact grounded_of_ne (by simp)
          · exact Within.mono (Within.map (ih rest) fun _ => rfl) ((List.suffix_cons e rest).trans hcs)
      · exact grounded_of_ne (by simp)
      · exact Within.mono (Within.map (ih cs) fun _ => rfl) hcs

/-! ## Numbers -/

theorem digitsOf_eq {ds : List Char} (h : digitsOf cs = (ds, rest)) : cs = ds ++ rest ∧ ∀ c ∈ ds, '0' ≤ c ∧ c ≤ '9' := by
  rw [digitsOf, List.span_eq_takeWhile_dropWhile, Prod.mk.injEq] at h
  obtain ⟨rfl, rfl⟩ := h
  refine ⟨List.takeWhile_append_dropWhile.symm, fun c hc => ?_⟩
  simpa using List.all_eq_true.1 List.all_takeWhile c hc

theorem wholePart_eq {whole : List Char} (h : wholePart cs = some (whole, rest)) :
    cs = whole ++ rest ∧ ∀ c ∈ whole, '0' ≤ c ∧ c ≤ '9' := by
  unfold wholePart at h
  split at h
  · cases h
    exact ⟨rfl, by simp⟩
  · split at h
    · cases h
    · rename_i ds after hne hds
      cases h
      exact digitsOf_eq hds

theorem suffix_of_fractionPart {part : List Char} (h : fractionPart cs = some (part, rest)) : rest <:+ cs := by
  unfold fractionPart at h
  split at h
  · split at h
    · cases h
    · rename_i after ds hne hds
      cases h
      rw [(digitsOf_eq hds).1]
      exact (List.suffix_append _ _).trans (List.suffix_cons _ _)
  · cases h

theorem readSign_suffix (cs : List Char) : (Number.readSign cs).2 <:+ cs := by
  unfold Number.readSign
  split
  · exact List.suffix_cons _ _
  · exact List.suffix_cons _ _
  · exact List.suffix_refl _

theorem suffix_of_exponentPart {e : Int} (h : exponentPart cs = some (e, rest)) : rest <:+ cs := by
  unfold exponentPart at h
  split at h
  · rename_i c after
    split_ifs at h
    · have hsign := readSign_suffix after
      dsimp only at h
      split at h
      · cases h
      · rename_i ds digits hne hds
        cases h
        rw [(digitsOf_eq hds).1] at hsign
        exact ((List.suffix_append _ _).trans hsign).trans (List.suffix_cons _ _)
  · cases h

/-- what stands behind a fraction, if there is one -/
theorem getD_fractionPart_suffix (cs : List Char) : ((fractionPart cs).getD ([], cs)).2 <:+ cs := by
  cases h : fractionPart cs with
  | none => exact List.suffix_refl cs
  | some r => exact suffix_of_fractionPart h

/-- what stands behind an exponent, if there is one -/
theorem getD_exponentPart_suffix (cs : List Char) : ((exponentPart cs).getD (0, cs)).2 <:+ cs := by
  cases h : exponentPart cs with
  | none => exact List.suffix_refl cs
  | some r => exact suffix_of_exponentPart h

/-- **An integer is refused only for its own digits** -/
theorem within_number (start : List Char) (negative : Bool) (cs : List Char) : Within cs (number start negative cs) := by
  unfold number
  cases hwhole : wholePart cs with
  | none => exact grounded_of_ne (by simp)
  | some r =>
    obtain ⟨whole, afterWhole⟩ := r
    obtain ⟨rfl, hdigits⟩ := wholePart_eq hwhole
    have hpart := getD_fractionPart_suffix afterWhole
    have hpower := getD_exponentPart_suffix ((fractionPart afterWhole).getD ([], afterWhole)).2
    have hrest := (hpower.trans hpart).trans (List.suffix_append whole afterWhole)
    dsimp only
    split
    · by_cases hlong : Number.digitLimit < whole.length
      · rw [Number.ofDigits, if_pos hlong]
        intro t ht
        cases ht
        exact ⟨whole, (List.prefix_append whole afterWhole).isInfix, ⟨hdigits, hlong⟩, rfl⟩
      · rw [Number.ofDigits, if_neg hlong]
        exact hrest
    · exact hrest

theorem within_scalar (cs : List Char) : Within cs (scalar cs) := by
  unfold scalar
  split
  · exact List.drop_suffix _ _
  · split
    · exact (within_number _ _ _).mono (List.suffix_cons _ _)
    · exact within_number _ _ _

/-! ## Values

A value inside another is read with less fuel: what the readers do with that much is known, and one step is added. -/

section

variable {fuel : Nat}

theorem within_value_succ (hitems : ∀ cs, Within cs (items fuel cs)) (hmembers : ∀ before cs, Within cs (members fuel before cs))
    (cs : List Char) : Within cs (value (fuel + 1) cs) := by
  unfold value
  split
  · exact Within.mono (Within.map (within_stringBody _ _ _) fun _ => rfl) (List.suffix_cons _ _)
  · rename_i rest
    have hrest : rest <:+ '\x5b' :: rest := List.suffix_cons _ _
    split
    · rename_i after hafter
      exact (suffix_of_skip hafter).trans hrest
    · exact Within.mono (Within.map (hitems _) fun _ => rfl) ((skip_suffix rest).trans hrest)
  · rename_i rest
    have hrest : rest <:+ '\x7b' :: rest := List.suffix_cons _ _
    split
    · rename_i after hafter
      exact (suffix_of_skip hafter).trans hrest
    · exact (hmembers _ _).mono ((skip_suffix rest).trans hrest)
  · exact within_scalar cs

theorem within_items_succ (hvalue : ∀ cs, Within cs (value fuel cs)) (hitems : ∀ cs, Within cs (items fuel cs))
    (cs : List Char) : Within cs (items (fuel + 1) cs) := by
  rw [items]
  refine (hvalue cs).bind fun d rest hrest => ?_
  dsimp only
  split
  · rename_i after hafter
    exact (suffix_of_skip hafter).trans hrest
  · rename_i after hafter
    exact Within.mono (Within.map (hitems _) fun _ => rfl) (((skip_suffix after).trans (suffix_of_skip hafter)).trans hrest)
  · exact grounded_of_ne (by simp)

theorem within_members_succ (hvalue : ∀ cs, Within cs (value fuel cs))
    (hmembers : ∀ before cs, Within cs (members fuel before cs)) (before : Datum) (cs : List Char) :
    Within cs (members (fuel + 1) before cs) := by
  unfold members
  split
  · rename_i keyText
    have hkey : Within ('"' :: keyText) (stringBody ('"' :: keyText) (keyText.length + 1) keyText) :=
      (within_stringBody _ _ _).mono (List.suffix_cons _ _)
    refine hkey.bind fun key afterKey hafterKey => ?_
    dsimp only
    split
    · rename_i afterColon hcolon
      have hmember : skip afterColon <:+ '"' :: keyText := ((skip_suffix _).trans (suffix_of_skip hcolon)).trans hafterKey
      refine ((hvalue _).mono hmember).bind fun d rest hrest => ?_
      dsimp only
      split
      · rename_i after hafter
        exact (suffix_of_skip hafter).trans hrest
      · rename_i after hafter
        exact (hmembers _ _).mono (((skip_suffix after).trans (suffix_of_skip hafter)).trans hrest)
      · exact grounded_of_ne (by simp)
    · exact grounded_of_ne (by simp)
  · exact grounded_of_ne (by simp)

end

theorem within_value (fuel : Nat) : (∀ cs, Within cs (value fuel cs)) ∧ (∀ cs, Within cs (items fuel cs)) ∧
    ∀ before cs, Within cs (members fuel before cs) := by
  induction fuel with
  | zero =>
    refine ⟨fun cs => ?_, fun cs => ?_, fun before cs => ?_⟩
    · rw [value]
      exact grounded_of_ne (by simp)
    · rw [items]
      exact grounded_of_ne (by simp)
    · rw [members]
      exact grounded_of_ne (by simp)
  | succ fuel ih =>
    obtain ⟨hvalue, hitems, hmembers⟩ := ih
    exact ⟨within_value_succ hitems hmembers, within_items_succ hvalue hitems, within_members_succ hvalue hmembers⟩

/-- **A text is refused for a number only if it holds a run of digits that is too long** -/
theorem holdsRun_of_read {t : Number.TooLong} (h : read cs = .error ⟨.tooLong t, rest⟩) : HoldsRun cs t := by
  unfold read at h
  split_ifs at h
  · cases h
  · have hvalue := (within_value (2 * cs.length + 2)).1 (skip cs)
    cases hv : value (2 * cs.length + 2) (skip cs) with
    | ok r =>
      rw [hv] at h
      simp only [bind, Except.bind] at h
      split at h <;> cases h
    | error e =>
      rw [hv] at h hvalue
      cases h
      exact (hvalue t rfl).mono (skip_suffix cs)

/-- such a run alone is refused, if it does not begin with a zero -/
theorem read_of_longRun {ds : List Char} (h : LongRun ds) (hhead : ds.head? ≠ some '0') :
    read ds = .error ⟨.tooLong (.reading ds.length), ds⟩ := by
  have hne : ds ≠ [] := by
    rintro rfl
    exact absurd h.long (Nat.not_lt_zero _)
  have hwhole := wholePart_append h.digits hne hhead stops_nil
  have hlong : Number.ofDigits ds = .error (.reading ds.length) := if_pos h.long
  rw [List.append_nil] at hwhole
  obtain ⟨c, cs, rfl⟩ := List.exists_cons_of_ne_nil hne
  have hc := h.digits c List.mem_cons_self
  have hopens := opensScalar_of_digit hc
  have hmark : c ≠ '\ufeff' := fun he => hopens.1.2 (by simp [he])
  have hskip : skip (c :: cs) = c :: cs := skip_gap gap_nil hopens.1.1
  rw [read, if_neg (by simpa using hmark), hskip, value_eq_scalar hopens, scalar_of_digit hc,
    number_of_wholePart hwhole stops_nil, hlong]
  rfl

/-! ## What is read -/

theorem hasLongInt_of_number {start : List Char} {negative : Bool} {d : Datum}
    (h : number start negative cs = .ok (d, rest)) : d.hasLongInt = false := by
  unfold number at h
  split at h
  · cases h
  · dsimp only at h
    split at h
    · split at h
      · cases h
      · rename_i n hn
        cases h
        exact Number.isTooLong_of_ofDigits hn negative
    · cases h
      rfl

theorem hasLongInt_of_scalar {d : Datum} (h : scalar cs = .ok (d, rest)) : d.hasLongInt = false := by
  unfold scalar at h
  split at h
  · rename_i w d' hfind
    cases h
    have hwords : ∀ w ∈ words, w.2.hasLongInt = false := by simp [words, Datum.hasLongInt]
    exact hwords (w, d) (List.mem_of_find?_eq_some hfind)
  · split at h
    · exact hasLongInt_of_number h
    · exact hasLongInt_of_number h

theorem memberLong_eq_false_iff {ms : List (String × Datum)} :
    Datum.memberLong ms = false ↔ ∀ m ∈ ms, m.2.hasLongInt = false := by
  induction ms with
  | nil => simp [Datum.memberLong]
  | cons m ms ih => simp [Datum.memberLong, ih]

theorem anyLong_eq_false_iff {ds : List Datum} : Datum.anyLong ds = false ↔ ∀ d ∈ ds, d.hasLongInt = false := by
  induction ds with
  | nil => simp [Datum.anyLong]
  | cons d ds ih => simp [Datum.anyLong, ih]

theorem brokenLong_eq_false_iff {ms : List (List Text.Sign × Datum)} :
    Datum.brokenLong ms = false ↔ ∀ m ∈ ms, m.2.hasLongInt = false := by
  induction ms with
  | nil => simp [Datum.brokenLong]
  | cons m ms ih => simp [Datum.brokenLong, ih]

/-- the members of a datum hold no integer that is too long if the datum does not -/
theorem hasLongInt_of_mem_members {table : Datum} (h : table.hasLongInt = false) :
    ∀ m ∈ table.members, m.2.hasLongInt = false := by
  cases table with
  | table ms =>
    rw [Datum.members, List.forall_mem_map]
    exact memberLong_eq_false_iff.1 h
  | brokenTable ms => exact brokenLong_eq_false_iff.1 h
  | _ => exact fun m hm => absurd hm List.not_mem_nil

theorem hasLongInt_withMember {table d : Datum} (htable : table.hasLongInt = false) (hd : d.hasLongInt = false)
    (key : List Text.Sign) : (table.withMember key d).hasLongInt = false := by
  unfold Datum.withMember
  split
  · rename_i ms cs _
    refine memberLong_eq_false_iff.2 fun m hm => ?_
    rcases Datum.mem_or_eq_of_mem_put hm with hm | hm
    · exact memberLong_eq_false_iff.1 htable m hm
    · exact hm ▸ hd
  · refine brokenLong_eq_false_iff.2 fun m hm => ?_
    rcases Datum.mem_or_eq_of_mem_put hm with hm | hm
    · exact hasLongInt_of_mem_members htable m hm
    · exact hm ▸ hd

theorem hasLongInt_ofSigns (ss : List Text.Sign) : (Datum.ofSigns ss).hasLongInt = false := by
  unfold Datum.ofSigns
  split <;> rfl

section

variable {fuel : Nat}

theorem hasLongInt_of_value_succ (hitems : ∀ cs ds rest, items fuel cs = .ok (ds, rest) → Datum.anyLong ds = false)
    (hmembers : ∀ before cs d rest, before.hasLongInt = false → members fuel before cs = .ok (d, rest) → d.hasLongInt = false)
    (cs : List Char) (d : Datum) (rest : List Char) (h : value (fuel + 1) cs = .ok (d, rest)) : d.hasLongInt = false := by
  unfold value at h
  split at h
  · obtain ⟨r, -, hr⟩ := map_eq_ok h
    cases hr
    exact hasLongInt_ofSigns r.1
  · split at h
    · cases h
      rfl
    · obtain ⟨r, hread, hr⟩ := map_eq_ok h
      cases hr
      exact hitems _ _ _ hread
  · split at h
    · cases h
      rfl
    · exact hmembers _ _ _ _ rfl h
  · exact hasLongInt_of_scalar h

theorem anyLong_of_items_succ (hvalue : ∀ cs d rest, value fuel cs = .ok (d, rest) → d.hasLongInt = false)
    (hitems : ∀ cs ds rest, items fuel cs = .ok (ds, rest) → Datum.anyLong ds = false) (cs : List Char) (ds : List Datum)
    (rest : List Char) (h : items (fuel + 1) cs = .ok (ds, rest)) : Datum.anyLong ds = false := by
  rw [items] at h
  obtain ⟨⟨d, rest'⟩, hd, h⟩ := bind_eq_ok h
  have hshort := hvalue _ _ _ hd
  dsimp only at h
  split at h
  · cases h
    simp [Datum.anyLong, hshort]
  · obtain ⟨r, hread, hr⟩ := map_eq_ok h
    cases hr
    simp [Datum.anyLong, hshort, hitems _ _ _ hread]
  · cases h

theorem hasLongInt_of_members_succ (hvalue : ∀ cs d rest, value fuel cs = .ok (d, rest) → d.hasLongInt = false)
    (hmembers : ∀ before cs d rest, before.hasLongInt = false → members fuel before cs = .ok (d, rest) → d.hasLongInt = false)
    (before : Datum) (cs : List Char) (d : Datum) (rest : List Char) (hbefore : before.hasLongInt = false)
    (h : members (fuel + 1) before cs = .ok (d, rest)) : d.hasLongInt = false := by
  unfold members at h
  split at h
  · obtain ⟨⟨key, afterKey⟩, -, h⟩ := bind_eq_ok h
    dsimp only at h
    split at h
    · obtain ⟨⟨d, rest'⟩, hd, h⟩ := bind_eq_ok h
      have hnow := hasLongInt_withMember hbefore (hvalue _ _ _ hd) key
      dsimp only at h
      split at h
      · cases h
        exact hnow
      · exact hmembers _ _ _ _ hnow h
      · cases h
    · cases h
  · cases h

end

/-- no reader of values, items or members finds an integer that is too long -/
theorem hasLongInt_of_value (fuel : Nat) :
    (∀ cs d rest, value fuel cs = .ok (d, rest) → d.hasLongInt = false) ∧
      (∀ cs ds rest, items fuel cs = .ok (ds, rest) → Datum.anyLong ds = false) ∧
      ∀ before cs d rest, before.hasLongInt = false → members fuel before cs = .ok (d, rest) → d.hasLongInt = false := by
  induction fuel with
  | zero =>
    refine ⟨fun cs d rest h => ?_, fun cs ds rest h => ?_, fun before cs d rest _ h => ?_⟩
    · rw [value] at h
      cases h
    · rw [items] at h
      cases h
    · rw [members] at h
      cases h
  | succ fuel ih =>
    obtain ⟨hvalue, hitems, hmembers⟩ := ih
    exact ⟨hasLongInt_of_value_succ hitems hmembers, anyLong_of_items_succ hvalue hitems,
      hasLongInt_of_members_succ hvalue hmembers⟩

/-- **Whatever is read holds no integer that is too long** -/
theorem hasLongInt_of_read {d : Datum} (h : read cs = .ok d) : d.hasLongInt = false := by
  unfold read at h
  split_ifs at h
  obtain ⟨⟨d', rest'⟩, hvalue, h⟩ := bind_eq_ok h
  dsimp only at h
  split at h
  · cases h
    exact (hasLongInt_of_value _).1 _ _ _ hvalue
  · cases h

end ChangeLint.Json
