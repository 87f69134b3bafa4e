/-
Laws of cutting a text.

`pieces` is the library's `List.splitOn`, so its laws are used from there. Fields that are each ended by the separator come
apart again (`splitOn_flatMap`), and of a text that is cut behind a separator the first of them (`exists_take_of_prefix`).

`cut a as` is known from its result alone. A piece is `Cuttable` when the separator occurs in the piece with the
separator behind it at the end only. Then
- `cut_flatMap`: cuttable pieces, each with the separator behind it, are what a text of that form is cut into;
- `exists_cut`: every text has that form, with a last piece that does not hold the separator.

`splitLast?_singleton`: the last occurrence of one character is the one with no other behind it.
-/
import ChangeLint.Text.Split
import Mathlib.Tactic

namespace ChangeLint.Text

/-! ## One character -/

theorem pushFront_eq_modifyHead (c : Char) {ps : List (List Char)} (h : ps ≠ []) :
    pushFront c ps = ps.modifyHead (c :: ·) := by
  cases ps with
  | nil => exact absurd rfl h
  | cons p ps => rfl

/-- the pieces are those of the library's own cut -/
theorem pieces_eq_splitOn (sep : Char) (cs : List Char) : pieces sep cs = cs.splitOn sep := by
  induction cs with
  | nil => rw [pieces, List.splitOn_nil]
  | cons c cs ih =>
    rw [pieces, List.splitOn_cons_eq_if_modifyHead, ih]
    by_cases h : c = sep
    · simp [h]
    · simp only [h, ite_false, beq_iff_eq]
      exact pushFront_eq_modifyHead c (List.splitOn_ne_nil sep cs)

/-- pieces hold no separator -/
theorem not_mem_of_mem_splitOn {sep : Char} {cs p : List Char} (h : p ∈ cs.splitOn sep) : sep ∉ p := by
  induction cs generalizing p with
  | nil =>
    rw [List.splitOn_nil, List.mem_singleton] at h
    rw [h]
    exact List.not_mem_nil
  | cons c cs ih =>
    rw [List.splitOn_cons_eq_if_modifyHead] at h
    by_cases hc : c = sep
    · simp only [hc, beq_self_eq_true, ite_true, List.mem_cons] at h
      rcases h with rfl | h
      · exact List.not_mem_nil
      · exact ih h
    · obtain ⟨q, qs, hq⟩ := List.exists_cons_of_ne_nil (List.splitOn_ne_nil sep cs)
      rw [hq] at ih h
      simp only [beq_iff_eq, hc, ite_false, List.modifyHead_cons, List.mem_cons] at h
      rcases h with rfl | h
      · rw [List.mem_cons, not_or]
        exact ⟨fun e => hc e.symm, ih List.mem_cons_self⟩
      · exact ih (List.mem_cons_of_mem q h)

/-- fields, each ended by the separator, are the pieces, and an empty one follows the last of them -/
theorem splitOn_flatMap {sep : Char} {ls : List (List Char)} (h : ∀ l ∈ ls, sep ∉ l) :
    (ls.flatMap fun l => l ++ [sep]).splitOn sep = ls ++ [[]] := by
  induction ls with
  | nil => rfl
  | cons l ls ih =>
    have ihs := ih fun m hm => h m (List.mem_cons_of_mem l hm)
    rw [List.flatMap_cons, List.append_assoc, List.singleton_append,
      List.splitOn_append_cons_self_of_not_mem (h l List.mem_cons_self), ihs]
    rfl

/-- such a text that is cut right behind a separator has the first of the fields, and none in part -/
theorem exists_take_of_prefix {sep : Char} {ls : List (List Char)} (h : ∀ l ∈ ls, sep ∉ l) {cs : List Char}
    (hpre : cs <+: ls.flatMap fun l => l ++ [sep]) (hend : [sep] <:+ cs) :
    ∃ k, cs = (ls.take k).flatMap fun l => l ++ [sep] := by
  induction ls generalizing cs with
  | nil =>
    rw [List.flatMap_nil, List.prefix_nil] at hpre
    exact absurd (List.suffix_nil.1 (hpre ▸ hend)) (List.cons_ne_nil sep [])
  | cons l ls ih =>
    rw [List.flatMap_cons] at hpre
    rcases List.prefix_or_prefix_of_prefix hpre (List.prefix_append (l ++ [sep]) _) with hle | ⟨rest, rfl⟩
    · rcases List.prefix_concat_iff.1 hle with rfl | hle
      · exact ⟨1, by simp⟩
      · exact absurd (hle.subset (hend.subset (List.mem_singleton_self sep))) (h l List.mem_cons_self)
    · by_cases hrest : rest = []
      · exact ⟨1, by simp [hrest]⟩
      · have hend' : [sep] <:+ rest :=
          List.suffix_of_suffix_length_le hend (List.suffix_append _ rest) (List.length_pos_of_ne_nil hrest)
        obtain ⟨k, hk⟩ := ih (fun m hm => h m (List.mem_cons_of_mem l hm)) ((List.prefix_append_right_inj _).1 hpre) hend'
        exact ⟨k + 1, by rw [List.take_succ_cons, List.flatMap_cons, ← hk]⟩

/-! ## A text -/

variable {a : Char} {as : List Char}

/-- with the separator behind it, the piece holds it nowhere before its end -/
def Cuttable (sep p : List Char) : Prop := ∀ m, m <:+ p → m ≠ [] → ¬ sep <+: m ++ sep

theorem cuttable_nil (sep : List Char) : Cuttable sep [] := fun _ hm hne =>
  absurd (List.suffix_nil.1 hm) hne

theorem cuttable_cons {sep : List Char} {c : Char} {p : List Char} :
    Cuttable sep (c :: p) ↔ ¬ sep <+: c :: p ++ sep ∧ Cuttable sep p := by
  constructor
  · intro h
    exact ⟨h _ List.suffix_rfl (List.cons_ne_nil c p), fun m hm => h m (hm.trans (List.suffix_cons c p))⟩
  · rintro ⟨h1, h2⟩ m hm hne
    rcases List.suffix_cons_iff.1 hm with rfl | hm
    · exact h1
    · exact h2 m hm hne

theorem cut_nil : cut a as [] = [[]] := by rw [cut]

/-- at a separator the next piece begins -/
theorem cut_separator (rest : List Char) : cut a as (a :: as ++ rest) = [] :: cut a as rest := by
  rw [List.cons_append, cut, if_pos ⟨rfl, List.isPrefixOf_iff_prefix.2 (List.prefix_append as rest)⟩,
    List.drop_left]

/-- any other character belongs to the piece at hand -/
theorem cut_cons {c : Char} {cs : List Char} (h : ¬ a :: as <+: c :: cs) :
    cut a as (c :: cs) = pushFront c (cut a as cs) := by
  rw [cut, if_neg]
  rintro ⟨rfl, hp⟩
  exact h ((List.prefix_cons_inj c).2 (List.isPrefixOf_iff_prefix.1 hp))

/-- a cuttable piece is cut off -/
theorem cut_append {p : List Char} (h : Cuttable (a :: as) p) (rest : List Char) :
    cut a as (p ++ (a :: as ++ rest)) = p :: cut a as rest := by
  induction p with
  | nil => exact cut_separator rest
  | cons c p ih =>
    obtain ⟨hc, hp⟩ := cuttable_cons.1 h
    -- an occurrence at the front would end before `rest`
    have hfront : ¬ a :: as <+: c :: (p ++ (a :: as ++ rest)) := by
      intro hpre
      refine hc (List.prefix_of_prefix_length_le hpre ⟨rest, ?_⟩ ?_)
      · simp
      · simp; omega
    rw [List.cons_append, cut_cons hfront, ih hp]
    rfl

/-- **Cuttable pieces come back**, each with the separator behind it, and the rest behind all of them -/
theorem cut_flatMap {ps : List (List Char)} (h : ∀ p ∈ ps, Cuttable (a :: as) p) (last : List Char) :
    cut a as ((ps.flatMap fun p => p ++ a :: as) ++ last) = ps ++ cut a as last := by
  induction ps with
  | nil => rfl
  | cons p ps ih =>
    rw [List.flatMap_cons, List.append_assoc, List.append_assoc, cut_append (h p List.mem_cons_self),
      ih fun q hq => h q (List.mem_cons_of_mem p hq)]
    rfl

/-- **Every text is cuttable pieces**, each with the separator behind it, and a last piece without it -/
theorem exists_cut (a : Char) (as cs : List Char) :
    ∃ ps last, cut a as cs = ps ++ [last] ∧ cs = (ps.flatMap fun p => p ++ a :: as) ++ last ∧
      (∀ p ∈ ps, Cuttable (a :: as) p) ∧ ¬ a :: as <:+: last := by
  induction hn : cs.length using Nat.strong_induction_on generalizing cs with
  | _ n ih =>
    subst hn
    by_cases hpre : a :: as <+: cs
    · -- the text begins with the separator: an empty piece, then those of the rest
      obtain ⟨rest, rfl⟩ := hpre
      obtain ⟨ps, last, h1, h2, h3, h4⟩ := ih rest.length (by simp) rest rfl
      refine ⟨[] :: ps, last, ?_, ?_, ?_, h4⟩
      · rw [cut_separator, h1]; rfl
      · rw [List.flatMap_cons, List.nil_append, List.append_assoc, ← h2]
      · intro p hp
        rcases List.mem_cons.1 hp with rfl | hp
        · exact cuttable_nil _
        · exact h3 p hp
    · cases cs with
      | nil =>
        refine ⟨[], [], cut_nil, rfl, by simp, ?_⟩
        rw [List.infix_nil]
        exact List.cons_ne_nil a as
      | cons c cs =>
        obtain ⟨ps, last, h1, h2, h3, h4⟩ := ih cs.length (by simp) cs rfl
        cases ps with
        | nil =>
          refine ⟨[], c :: last, ?_, ?_, by simp, ?_⟩
          · rw [cut_cons hpre, h1]; rfl
          · simpa using h2
          · rw [List.infix_cons_iff, not_or]
            simp only [List.flatMap_nil, List.nil_append] at h2
            exact ⟨h2 ▸ hpre, h4⟩
        | cons p ps =>
          refine ⟨(c :: p) :: ps, last, ?_, ?_, ?_, h4⟩
          · rw [cut_cons hpre, h1]; rfl
          · rw [h2]; rfl
          · intro q hq
            rcases List.mem_cons.1 hq with rfl | hq
            · refine cuttable_cons.2 ⟨fun hp => hpre (hp.trans ?_), h3 p List.mem_cons_self⟩
              rw [h2]
              exact ⟨(ps.flatMap fun p => p ++ a :: as) ++ last, by simp⟩
            · exact h3 q (List.mem_cons_of_mem p hq)

/-- a text is cut into one piece at least -/
theorem cut_ne_nil (a : Char) (as cs : List Char) : cut a as cs ≠ [] := by
  obtain ⟨ps, last, hcut, -⟩ := exists_cut a as cs
  rw [hcut]
  exact List.append_ne_nil_of_right_ne_nil ps (List.cons_ne_nil last [])

/-- a text without the separator is its only piece -/
theorem cut_eq_singleton {cs : List Char} (h : ¬ a :: as <:+: cs) : cut a as cs = [cs] := by
  obtain ⟨ps, last, hcut, htext, -⟩ := exists_cut a as cs
  cases ps with
  | nil => rw [hcut, htext, List.flatMap_nil, List.nil_append, List.nil_append]
  | cons p ps =>
    rw [List.flatMap_cons] at htext
    exact absurd ⟨p, (ps.flatMap fun p => p ++ a :: as) ++ last, by rw [htext]; simp⟩ h

/-! ## Occurrences -/

/-- a text without a character does not reach over it -/
theorem prefix_append_cons {t u v : List Char} {d : Char} (hd : d ∉ t) (h : t <+: u ++ d :: v) : t <+: u := by
  rcases Nat.lt_or_ge u.length t.length with hlen | hlen
  · have hpre : u ++ [d] <+: t := List.prefix_of_prefix_length_le ⟨v, by simp⟩ h (by simpa using hlen)
    exact absurd (hpre.subset (by simp)) hd
  · exact List.prefix_of_prefix_length_le h (List.prefix_append u (d :: v)) hlen

theorem infix_append_cons {t u v : List Char} {d : Char} (hd : d ∉ t) :
    t <:+: u ++ d :: v ↔ t <:+: u ∨ t <:+: v := by
  constructor
  · intro h
    induction u with
    | nil =>
      rcases List.infix_cons_iff.1 h with hp | hi
      · exact Or.inl (prefix_append_cons (u := []) hd hp).isInfix
      · exact Or.inr hi
    | cons c u ih =>
      rcases List.infix_cons_iff.1 h with hp | hi
      · exact Or.inl (prefix_append_cons (u := c :: u) hd hp).isInfix
      · exact (ih hi).imp_left List.infix_cons
  · rintro (h | h)
    · exact h.trans (List.prefix_append u (d :: v)).isInfix
    · exact h.trans ⟨u ++ [d], [], by simp⟩

/-! ## The last occurrence -/

theorem splitLast?_eq_none {c : Char} {cs : List Char} (h : c ∉ cs) : splitLast? [c] cs = none := by
  induction cs with
  | nil => rfl
  | cons d cs ih =>
    rw [List.mem_cons, not_or] at h
    rw [splitLast?, ih h.2]
    simp [h.1]

/-- the last occurrence of a text does not come before the one that is seen -/
theorem splitLast?_append (sep : List Char) (hsep : sep ≠ []) (before after : List Char) :
    ∃ middle last, splitLast? sep (before ++ (sep ++ after)) = some (before ++ middle, last) := by
  induction before with
  | nil =>
    obtain ⟨c, sep', rfl⟩ := List.exists_cons_of_ne_nil hsep
    rw [List.nil_append, List.cons_append, splitLast?]
    cases h : splitLast? (c :: sep') (sep' ++ after) with
    | some parts => exact ⟨c :: parts.1, parts.2, rfl⟩
    | none => exact ⟨[], after, by simp⟩
  | cons c before ih =>
    obtain ⟨middle, last, h⟩ := ih
    exact ⟨middle, last, by rw [List.cons_append, splitLast?, h]; rfl⟩

/-- a character with no other of its kind behind it is the last one -/
theorem splitLast?_singleton {c : Char} {after : List Char} (h : c ∉ after) (before : List Char) :
    splitLast? [c] (before ++ c :: after) = some (before, after) := by
  induction before with
  | nil =>
    rw [List.nil_append, splitLast?, splitLast?_eq_none h]
    simp
  | cons d before ih => rw [List.cons_append, splitLast?, ih]

/-! ## Occurrences -/

theorem occurs_iff {t cs : List Char} : occurs t cs = true ↔ t <:+: cs := by
  induction cs with
  | nil => rw [occurs, List.isEmpty_iff, List.infix_nil]
  | cons c cs ih => rw [occurs, Bool.or_eq_true, List.isPrefixOf_iff_prefix, ih, List.infix_cons_iff]

end ChangeLint.Text
