/-
Which texts are integers.

`Figures` are digits of any script with single underscores between them, `Signed` puts a sign in front or none. That is all
that an integer is written with, blanks around it apart.

Results:
- `digitRun_iff`: a run of digits takes up a whole text if and only if the text is figures;
- `readInt_stripped_iff`: a text reads as an integer if and only if it is a signed one once the blanks at its ends are
  taken off;
- `readInt_of_stranger`: no text with a character that numbers are not written with reads as one; every real number has one
  (`exists_stranger_showReal`).
-/
import ChangeLint.Proofs.Number.Digit
import ChangeLint.Proofs.Text.Blank

namespace ChangeLint.Number

open ChangeLint.Text

/-- digits with single underscores between them, and the digits alone -/
inductive Figures : List Char → List Char → Prop
  | last {c : Char} (h : isDigit c = true) : Figures [c] [c]
  | digit {c : Char} {cs ds : List Char} (h : isDigit c = true) (hcs : Figures cs ds) : Figures (c :: cs) (c :: ds)
  | gap {c : Char} {cs ds : List Char} (h : isDigit c = true) (hcs : Figures cs ds) : Figures (c :: '_' :: cs) (c :: ds)

/-- one sign at most and figures, no more than can be read, and the integer that they write -/
inductive Signed : List Char → Int → Prop
  | bare {cs ds : List Char} (h : Figures cs ds) (hlimit : ds.length ≤ digitLimit) : Signed cs (Text.ofDigits ds)
  | plus {cs ds : List Char} (h : Figures cs ds) (hlimit : ds.length ≤ digitLimit) : Signed ('+' :: cs) (Text.ofDigits ds)
  | minus {cs ds : List Char} (h : Figures cs ds) (hlimit : ds.length ≤ digitLimit) :
    Signed ('-' :: cs) (-(Text.ofDigits ds : Int))

/-- a character that numbers are not written with, and that is no blank either -/
def IsStranger (c : Char) : Prop := isBlank c = false ∧ isDigit c = false ∧ c ∉ ['+', '-', '_']

instance : DecidablePred IsStranger := fun c =>
  inferInstanceAs (Decidable (isBlank c = false ∧ isDigit c = false ∧ c ∉ ['+', '-', '_']))

variable {cs ds rest : List Char} {c : Char} {n : Int} {s : String}

/-! ## Figures -/

theorem Figures.exists_digit (h : Figures cs ds) : ∃ c rest, cs = c :: rest ∧ isDigit c = true := by
  cases h with
  | last h => exact ⟨_, _, rfl, h⟩
  | digit h hcs => exact ⟨_, _, rfl, h⟩
  | gap h hcs => exact ⟨_, _, rfl, h⟩

theorem Figures.ne_nil (h : Figures cs ds) : ds ≠ [] := by
  cases h <;> exact List.cons_ne_nil _ _

theorem Figures.mem (h : Figures cs ds) (hc : c ∈ cs) : isDigit c = true ∨ c = '_' := by
  induction h with
  | last h => exact .inl (List.mem_singleton.1 hc ▸ h)
  | digit h hcs ih =>
    rcases List.mem_cons.1 hc with rfl | hc
    · exact .inl h
    · exact ih hc
  | gap h hcs ih =>
    rcases List.mem_cons.1 hc with rfl | hc
    · exact .inl h
    · rcases List.mem_cons.1 hc with rfl | hc
      · exact .inr rfl
      · exact ih hc

theorem digitRun_digit (h : isDigit c = true) (after : Bool) (cs : List Char) :
    digitRun after (c :: cs) = (c :: (digitRun true cs).1, (digitRun true cs).2) := by
  rw [digitRun.eq_def]
  exact if_pos h

/-- an underscore between digits -/
theorem digitRun_gap (h : isDigit c = true) (cs : List Char) :
    digitRun true ('_' :: c :: cs) = digitRun false (c :: cs) := by
  rw [digitRun.eq_def]
  simp only [show isDigit '_' = false by decide, h, Bool.false_eq_true, if_false, decide_true, Bool.and_self, if_true]

theorem digitRun_of_figures (h : Figures cs ds) (after : Bool) : digitRun after cs = (ds, []) := by
  induction h generalizing after with
  | last h => rw [digitRun_digit h]; rfl
  | digit h hcs ih => rw [digitRun_digit h, ih true]
  | gap h hcs ih =>
    obtain ⟨d, more, rfl, hd⟩ := hcs.exists_digit
    rw [digitRun_digit h, digitRun_gap hd, ih false]

/-- a run of digits that takes up the whole text: behind a digit an underscore may come first -/
theorem figures_of_digitRun :
    (digitRun false cs = (ds, []) → ds ≠ [] → Figures cs ds) ∧
      (digitRun true cs = (ds, []) →
        (cs = [] ∧ ds = []) ∨ Figures cs ds ∨ ∃ more, cs = '_' :: more ∧ Figures more ds) := by
  induction cs generalizing ds with
  | nil =>
    refine ⟨fun h hne => ?_, fun h => .inl ⟨rfl, ?_⟩⟩
    · exact absurd (Prod.mk.inj h).1.symm hne
    · exact (Prod.mk.inj h).1.symm
  | cons c cs ih =>
    cases hc : isDigit c with
    | true =>
      have hfigures : ∀ after, digitRun after (c :: cs) = (ds, []) → Figures (c :: cs) ds := by
        intro after h
        rw [digitRun_digit hc] at h
        obtain ⟨rfl, hrest⟩ := Prod.mk.inj h
        rcases (@ih (digitRun true cs).1).2 (Prod.ext rfl hrest) with ⟨rfl, hnil⟩ | hcs | ⟨more, rfl, hmore⟩
        · exact .last hc
        · exact .digit hc hcs
        · exact .gap hc hmore
      exact ⟨fun h _ => hfigures false h, fun h => .inr (.inl (hfigures true h))⟩
    | false =>
      refine ⟨fun h _ => ?_, fun h => ?_⟩
      · simp [digitRun, hc] at h
      · by_cases hunderscore : c = '_'
        · subst hunderscore
          cases cs with
          | nil => simp [digitRun, hc] at h
          | cons d cs =>
            cases hd : isDigit d with
            | false => simp [digitRun, hc, hd] at h
            | true =>
              rw [digitRun_gap hd] at h
              have hne : ds ≠ [] := by
                rintro rfl
                rw [digitRun_digit hd] at h
                cases h
              exact .inr (.inr ⟨d :: cs, rfl, ih.1 h hne⟩)
        · simp [digitRun.eq_def, hc, hunderscore] at h

/-- **Figures are read to their end**, and nothing else is -/
theorem digitRun_iff (hne : ds ≠ []) : digitRun false cs = (ds, []) ↔ Figures cs ds :=
  ⟨fun h => figures_of_digitRun.1 h hne, fun h => digitRun_of_figures h false⟩

theorem digitRun_suffix (after : Bool) (cs : List Char) : (digitRun after cs).2 <:+ cs := by
  fun_induction digitRun after cs with
  | case1 => exact List.suffix_refl _
  | case2 after c cs h ds rest heq ih =>
    rw [heq] at ih
    exact ih.trans (List.suffix_cons c cs)
  | case3 after c h hafter d rest hd ih => exact ih.trans (List.suffix_cons c _)
  | case4 => exact List.suffix_refl _
  | case5 => exact List.suffix_refl _
  | case6 => exact List.suffix_refl _

/-! ## Signs and blanks -/

theorem isBlank_of_isMargin (h : isMargin c = true) : isBlank c = true := by
  simp only [isMargin, Bool.or_eq_true, Bool.and_eq_true, decide_eq_true_eq, Char.le_def, UInt32.le_iff_toNat_le] at h
  rcases h with (rfl | ⟨htab, hreturn⟩) | ⟨-, hblank⟩
  · decide
  · have h1 : 9 ≤ c.toNat := htab
    have h2 : c.toNat ≤ 13 := hreturn
    simp [isBlank, h1, h2]
  · exact hblank

theorem readSign_eq (cs : List Char) :
    readSign cs = (false, cs) ∨ (∃ rest, cs = '+' :: rest ∧ readSign cs = (false, rest)) ∨
      ∃ rest, cs = '-' :: rest ∧ readSign cs = (true, rest) := by
  unfold readSign
  split
  · exact .inr (.inr ⟨_, rfl, rfl⟩)
  · exact .inr (.inl ⟨_, rfl, rfl⟩)
  · exact .inl rfl

theorem readSign_suffix (cs : List Char) : (readSign cs).2 <:+ cs := by
  rcases readSign_eq cs with h | ⟨rest, rfl, h⟩ | ⟨rest, rfl, h⟩
  · rw [h]
  · rw [h]
    exact List.suffix_cons _ _
  · rw [h]
    exact List.suffix_cons _ _

/-- figures have no sign of their own -/
theorem readSign_figures (h : Figures cs ds) : readSign cs = (false, cs) := by
  obtain ⟨c, rest, rfl, hc⟩ := h.exists_digit
  rcases readSign_eq (c :: rest) with h | ⟨more, hsign, h⟩ | ⟨more, hsign, h⟩
  · exact h
  · rw [(List.cons.inj hsign).1] at hc
    exact absurd hc (by decide)
  · rw [(List.cons.inj hsign).1] at hc
    exact absurd hc (by decide)

/-- a signed integer by its sign and what stands behind it -/
theorem signed_iff : Signed cs n ↔ ∃ ds, Figures (readSign cs).2 ds ∧ ds.length ≤ digitLimit ∧
    n = if (readSign cs).1 then -(Text.ofDigits ds : Int) else Text.ofDigits ds := by
  constructor
  · intro h
    cases h with
    | bare h hlimit => exact ⟨_, by rw [readSign_figures h]; exact h, hlimit, by rw [readSign_figures h]; rfl⟩
    | plus h hlimit => exact ⟨_, h, hlimit, rfl⟩
    | minus h hlimit => exact ⟨_, h, hlimit, rfl⟩
  · rintro ⟨ds, hfigures, hlimit, rfl⟩
    rcases readSign_eq cs with h | ⟨rest, rfl, h⟩ | ⟨rest, rfl, h⟩
    · rw [h] at hfigures ⊢
      exact .bare hfigures hlimit
    · rw [h] at hfigures ⊢
      exact .plus hfigures hlimit
    · rw [h] at hfigures ⊢
      exact .minus hfigures hlimit

/-- a text is read by its figures, when it does not begin or end with a blank -/
theorem readInt_eq_ok_iff (hhead : ∀ c ∈ cs.head?, isBlank c = false) (hlast : ∀ c ∈ cs.getLast?, isBlank c = false) :
    readInt (String.ofList cs) = .ok n ↔ Signed cs n := by
  have hmargin : ∀ {c : Char}, isBlank c = false → isMargin c = false := by
    intro c hc
    by_contra hm
    rw [isBlank_of_isMargin (by simpa using hm)] at hc
    cases hc
  have hdrop : cs.dropWhile isMargin = cs := by
    cases cs with
    | nil => rfl
    | cons c cs => exact List.dropWhile_cons_of_neg (by simp [hmargin (hhead c rfl)])
  -- what stands behind the digits can be a margin only if nothing stands there
  have hrest : ∀ {rest : List Char}, rest <:+ cs → (rest.all isMargin = true ↔ rest = []) := by
    intro rest hsuffix
    refine ⟨fun hall => ?_, fun h => by rw [h]; rfl⟩
    by_contra hne
    obtain ⟨front, rfl⟩ := hsuffix
    have hmem := List.all_eq_true.1 hall _ (List.getLast_mem hne)
    rw [hmargin (hlast _ ?_)] at hmem
    · cases hmem
    · rw [List.getLast?_append_of_ne_nil _ hne]
      exact List.getLast?_eq_some_getLast hne
  have hdigits := hrest ((digitRun_suffix false _).trans (readSign_suffix cs))
  rw [signed_iff]
  simp only [readInt, String.toList_ofList, hdrop, ofDigits, hdigits, List.isEmpty_iff]
  constructor
  · intro h
    by_cases hempty : (digitRun false (readSign cs).2).1 = []
    · rw [if_pos hempty] at h
      cases h
    rw [if_neg hempty] at h
    by_cases hlimit : digitLimit < (digitRun false (readSign cs).2).1.length
    · rw [if_pos hlimit] at h
      cases h
    rw [if_neg hlimit] at h
    by_cases hend : (digitRun false (readSign cs).2).2 = []
    · simp only [if_pos hend, Except.ok.injEq] at h
      exact ⟨_, (digitRun_iff hempty).1 (Prod.ext rfl hend), not_lt.1 hlimit, h.symm⟩
    · simp only [if_neg hend] at h
      cases h
  · rintro ⟨ds, hfigures, hlimit, rfl⟩
    rw [digitRun_of_figures hfigures false, if_neg hfigures.ne_nil, if_neg (not_lt.2 hlimit)]
    simp only [if_true]

/-! ## Texts -/

/-- **A text reads as an integer** if and only if it is a signed one once the blanks at its ends are taken off -/
theorem readInt_stripped_iff : readInt (stripped s) = .ok n ↔ Signed (trim isBlank s.toList) n :=
  readInt_eq_ok_iff (fun _ hc => head?_trim hc) fun _ hc => getLast?_trim hc

example : readInt (stripped " +1_2\n") = .ok 12 := by decide

theorem Signed.mem (h : Signed cs n) (hc : c ∈ cs) : isDigit c = true ∨ c ∈ ['+', '-', '_'] := by
  have hfigures : ∀ {cs ds : List Char}, Figures cs ds → c ∈ cs → isDigit c = true ∨ c ∈ ['+', '-', '_'] := by
    intro cs ds h hc
    rcases h.mem hc with hdigit | rfl
    · exact .inl hdigit
    · exact .inr (by decide)
  cases h with
  | bare h hlimit => exact hfigures h hc
  | plus h hlimit =>
    rcases List.mem_cons.1 hc with rfl | hc
    · exact .inr (by decide)
    · exact hfigures h hc
  | minus h hlimit =>
    rcases List.mem_cons.1 hc with rfl | hc
    · exact .inr (by decide)
    · exact hfigures h hc

/-- a text with a stranger in it is no integer -/
theorem readInt_of_stranger (hc : c ∈ s.toList) (h : IsStranger c) : (readInt (stripped s)).toOption = none := by
  obtain ⟨hblank, hdigit, hsign⟩ := h
  cases hread : readInt (stripped s) with
  | error e => rfl
  | ok n =>
    rcases (readInt_stripped_iff.1 hread).mem (mem_trim hc hblank) with h | h
    · rw [hdigit] at h
      cases h
    · exact absurd h hsign

/-! ## Real numbers -/

theorem digits_shortest_ne_nil (m : Nat) (e : Int) : (Binary64.shortest m e).digits ≠ [] := by
  have hzeros : ∀ cs, Binary64.withoutZeros cs ≠ [] := by
    intro cs
    unfold Binary64.withoutZeros
    split
    · exact List.cons_ne_nil _ _
    · assumption
  unfold Binary64.shortest
  dsimp only
  split
  · exact List.cons_ne_nil _ _
  · exact hzeros _

theorem point_mem_positional (ds : List Char) (point : Int) : '.' ∈ (positional ds point).toList := by
  unfold positional
  split <;> simp

theorem exponent_mem_scientific (hne : ds ≠ []) (point : Int) : 'e' ∈ (scientific ds point).toList := by
  unfold scientific
  split
  · exact absurd rfl hne
  · simp
  · simp

/-- a real number is never written like an integer: it has a point, an exponent or is a word -/
theorem exists_stranger_showReal (x : Binary64) : ∃ c ∈ (showReal x).toList, IsStranger c := by
  match x with
  | .nan => exact ⟨'n', by decide, by decide⟩
  | .infinite true => exact ⟨'i', by decide, by decide⟩
  | .infinite false => exact ⟨'i', by decide, by decide⟩
  | .finite true 0 _ => exact ⟨'.', by simp [showReal], by decide⟩
  | .finite false 0 _ => exact ⟨'.', by simp [showReal], by decide⟩
  | .finite negative (m + 1) e =>
    have hbody : ∃ c ∈ (if -4 ≤ (Binary64.shortest (m + 1) e).point ∧ (Binary64.shortest (m + 1) e).point < 16 then
        positional (Binary64.shortest (m + 1) e).digits (Binary64.shortest (m + 1) e).point
        else scientific (Binary64.shortest (m + 1) e).digits (Binary64.shortest (m + 1) e).point).toList, IsStranger c := by
      split
      · exact ⟨'.', point_mem_positional _ _, by decide⟩
      · exact ⟨'e', exponent_mem_scientific (digits_shortest_ne_nil _ _) _, by decide⟩
    obtain ⟨c, hc, hstranger⟩ := hbody
    refine ⟨c, ?_, hstranger⟩
    unfold showReal
    dsimp only
    split
    · rw [String.toList_append]
      exact List.mem_append_right _ hc
    · exact hc

end ChangeLint.Number
