/-
Which lines survive framing.

The delimiter stands in the text that it frames and overlaps itself by one character: a line that ends with all of the
delimiter but the last character is cut too early, though it does not hold the delimiter. A line that does neither is
`Safe`, and safe lines are what `Text.cut` can cut off (`safe_of_cuttable`, `cuttable_of_safe`).

Results:
- `recordsOf_framed`: safe records without a break in front come back, the empty ones left out;
- `mem_recordsOf_framed`: among records that end with a character that the delimiter does not have, each comes back that
  does not hold the delimiter itself;
- `records_frameLines_eq_iff`: the lines of a text come back if and only if all of them are safe;
- `recordsOf_frameLines`: what is read of lines that are each ended by a break.
-/
import ChangeLint.Framing
import ChangeLint.Proofs.Text.Split

namespace ChangeLint.Framing

open ChangeLint.Text

/-- a line that neither holds the delimiter nor ends with all of it but its last character -/
def Safe (l : List Char) : Prop := ¬ delimiter <:+: l ∧ ¬ delimiter.dropLast <:+ l

instance (l : List Char) : Decidable (Safe l) :=
  inferInstanceAs (Decidable (¬ delimiter <:+: l ∧ ¬ delimiter.dropLast <:+ l))

/-- records in one text, each with the delimiter behind it -/
def framed (ls : List (List Char)) : List Char := ls.flatMap (· ++ delimiter)

/-! ## Safe lines are those that can be cut off -/

/-- the delimiter overlaps itself by its last character and by no more -/
theorem delimiter_overlap : ∀ k < delimiter.length, 0 < k → delimiter.drop k <+: delimiter → k = 10 := by
  decide

theorem cuttable_of_safe {l : List Char} (h : Safe l) : Cuttable delimiter l := by
  intro m hm hne hpre
  obtain ⟨s, rfl⟩ := hm
  rcases Nat.lt_or_ge m.length delimiter.length with hlen | hlen
  · -- the occurrence runs into the delimiter behind the line, so the line ends with its front
    have htake : m = delimiter.take m.length :=
      List.prefix_iff_eq_take.1 (List.prefix_of_prefix_length_le (List.prefix_append m delimiter) hpre hlen.le)
    have hdrop : delimiter.drop m.length <+: delimiter := by
      obtain ⟨r, hr⟩ := hpre
      refine ⟨r, (List.append_right_inj m).1 ?_⟩
      rw [← hr, ← List.append_assoc]
      congr 1
      conv_lhs => rw [htake]
      conv_rhs => rw [← List.take_append_drop m.length delimiter]
      rw [List.length_take_of_le hlen.le]
    have hten := delimiter_overlap m.length hlen (List.length_pos_of_ne_nil hne) hdrop
    refine h.2 ⟨s, ?_⟩
    rw [htake, hten]
    rfl
  · exact h.1 ((List.prefix_of_prefix_length_le hpre (List.prefix_append m delimiter) hlen).isInfix.trans
      (List.suffix_append s m).isInfix)

theorem safe_of_cuttable {l : List Char} (h : Cuttable delimiter l) : Safe l := by
  constructor
  · rintro ⟨s, t, rfl⟩
    refine h (delimiter ++ t) ⟨s, by simp⟩ (by simp [delimiter]) ?_
    rw [List.append_assoc]
    exact List.prefix_append delimiter _
  · intro hsuf
    exact h delimiter.dropLast hsuf (by decide) (by decide)

theorem safe_nil : Safe [] := by
  constructor
  · decide
  · decide

theorem not_infix_of_not_mem {l : List Char} (h : '@' ∉ l) : ¬ delimiter <:+: l := fun hi =>
  h (hi.subset List.mem_cons_self)

/-- a line without one of the letters of the delimiter -/
theorem safe_of_not_mem {l : List Char} {c : Char} (hc : c ∈ delimiter.dropLast) (h : c ∉ l) : Safe l :=
  ⟨fun hi => h (hi.subset (List.mem_of_mem_dropLast hc)), fun hs => h (hs.subset hc)⟩

/-- behind a character that the delimiter does not have, only the delimiter itself can do harm -/
theorem safe_concat {l : List Char} {c : Char} (hl : ¬ delimiter <:+: l) (hc : c ∉ delimiter) : Safe (l ++ [c]) := by
  constructor
  · rw [infix_append_cons hc, not_or]
    exact ⟨hl, by decide⟩
  · intro hsuf
    have hlast := hsuf.getLast (by decide)
    rw [List.getLast_append_of_ne_nil _ (List.cons_ne_nil c []), List.getLast_singleton] at hlast
    exact hc (hlast ▸ by decide)

/-! ## Records of framed records -/

theorem dropBreak_of_not_mem {l : List Char} (h : '\n' ∉ l) : dropBreak l = l := by
  unfold dropBreak
  split
  · simp at h
  · simp at h
  · rfl

/-- **Safe records come back**, the empty ones left out -/
theorem recordsOf_framed {ls : List (List Char)} (hsafe : ∀ l ∈ ls, Safe l) (hbreak : ∀ l ∈ ls, dropBreak l = l) :
    recordsOf (framed ls) = ls.filter fun l => !l.isEmpty := by
  have hcut : cut '@' delimiterTail (framed ls) = ls ++ [[]] := by
    have h : cut '@' delimiterTail (framed ls ++ []) = ls ++ cut '@' delimiterTail [] :=
      cut_flatMap (fun l hl => cuttable_of_safe (hsafe l hl)) []
    rwa [List.append_nil, cut_nil] at h
  rw [recordsOf, hcut, List.map_append, List.map_congr_left hbreak, List.map_id']
  simp [dropBreak]

/-- behind a character that the delimiter does not have the delimiter is found, whatever stands before -/
theorem cut_concat_append {p : List Char} {c : Char} (hc : c ∉ delimiter) (rest : List Char) :
    cut '@' delimiterTail (p ++ [c] ++ (delimiter ++ rest)) =
      cut '@' delimiterTail (p ++ [c]) ++ cut '@' delimiterTail rest := by
  obtain ⟨ps, last, hcut, htext, hps, hlast⟩ := exists_cut '@' delimiterTail (p ++ [c])
  have hsafe : Safe last := by
    refine ⟨hlast, fun hsuf => ?_⟩
    have hend := (hsuf.trans ⟨_, htext.symm⟩).getLast (by decide)
    rw [List.getLast_append_of_ne_nil _ (List.cons_ne_nil c []), List.getLast_singleton] at hend
    exact hc (hend ▸ by decide)
  rw [hcut, htext, List.append_assoc, cut_flatMap hps, delimiter, cut_append (cuttable_of_safe hsafe), List.append_assoc,
    List.singleton_append]

/-- records that end with such a character are cut one by one -/
theorem cut_framed {ls : List (List Char)} (h : ∀ l ∈ ls, ∃ p c, c ∉ delimiter ∧ l = p ++ [c]) :
    cut '@' delimiterTail (framed ls) = ls.flatMap (cut '@' delimiterTail) ++ [[]] := by
  induction ls with
  | nil => exact cut_nil
  | cons l ls ih =>
    obtain ⟨p, c, hc, rfl⟩ := h l List.mem_cons_self
    have ihs := ih fun m hm => h m (List.mem_cons_of_mem _ hm)
    rw [framed, List.flatMap_cons, ← framed, List.append_assoc, cut_concat_append hc, ihs, List.flatMap_cons,
      List.append_assoc]

/-- **A record without the delimiter comes back** from among such records, whatever the others hold -/
theorem mem_recordsOf_framed {ls : List (List Char)} (h : ∀ l ∈ ls, ∃ p c, c ∉ delimiter ∧ l = p ++ [c]) {l : List Char}
    (hl : l ∈ ls) (hfree : ¬ delimiter <:+: l) (hbreak : dropBreak l = l) : l ∈ recordsOf (framed ls) := by
  obtain ⟨p, c, -, hpc⟩ := h l hl
  rw [recordsOf, cut_framed h, List.mem_filter, List.mem_map]
  refine ⟨⟨l, List.mem_append_left _ (List.mem_flatMap.2 ⟨l, hl, ?_⟩), hbreak⟩, ?_⟩
  · rw [cut_eq_singleton hfree]
    exact List.mem_singleton_self l
  · simp [hpc]

/-- a framed text that is not empty ends with the delimiter -/
theorem delimiter_suffix_framed {ls : List (List Char)} (h : ls ≠ []) : delimiter <:+ framed ls := by
  have hls : framed ls = framed ls.dropLast ++ ls.getLast h ++ delimiter := by
    conv_lhs => rw [← List.dropLast_append_getLast h]
    simp [framed]
  exact ⟨_, hls.symm⟩

/-- every piece that a framed text is cut into is safe, whatever was framed -/
theorem safe_of_mem_cut {ls : List (List Char)} {p : List Char} (hp : p ∈ cut '@' delimiterTail (framed ls)) :
    Safe p := by
  obtain ⟨ps, last, hcut, htext, hps, hlast⟩ := exists_cut '@' delimiterTail (framed ls)
  rw [hcut, List.mem_append, List.mem_singleton] at hp
  rcases hp with hp | rfl
  · exact safe_of_cuttable (hps p hp)
  · refine ⟨hlast, fun hsuf => ?_⟩
    have hsuf' : delimiter.dropLast <:+ framed ls := hsuf.trans ⟨_, htext.symm⟩
    by_cases hne : ls = []
    · subst hne
      exact absurd (List.suffix_nil.1 hsuf') (by decide)
    · -- the text ends with the delimiter, so not with its last but one character
      have h1 := (delimiter_suffix_framed hne).getLast (by decide)
      have h2 := hsuf'.getLast (by decide)
      rw [← h2] at h1
      exact absurd h1 (by decide)

/-- the pieces of a framed text hold no character that the records do not hold -/
theorem mem_of_mem_cut {ls : List (List Char)} {p : List Char} (hp : p ∈ cut '@' delimiterTail (framed ls)) {c : Char}
    (hc : c ∈ p) : c ∈ framed ls := by
  obtain ⟨ps, last, hcut, htext, -, -⟩ := exists_cut '@' delimiterTail (framed ls)
  rw [hcut, List.mem_append, List.mem_singleton] at hp
  rw [htext, List.mem_append, List.mem_flatMap]
  rcases hp with hp | rfl
  · exact Or.inl ⟨p, hp, List.mem_append_left _ hc⟩
  · exact Or.inr hc

/-! ## Lines -/

theorem linesOf_eq (cs : List Char) :
    linesOf cs = if (cs.splitOn '\n').getLast? = some [] then (cs.splitOn '\n').dropLast else cs.splitOn '\n' := by
  simp only [linesOf, pieces_eq_splitOn]

theorem nonempty_linesOf (cs : List Char) :
    ((linesOf cs).filter fun l => !l.isEmpty) = (cs.splitOn '\n').filter fun l => !l.isEmpty := by
  rw [linesOf_eq]
  split
  · rename_i h
    obtain ⟨init, hinit⟩ := List.getLast?_eq_some_iff.1 h
    rw [hinit]
    simp
  · rfl

theorem mem_linesOf {cs l : List Char} (h : l ∈ linesOf cs) : l ∈ cs.splitOn '\n' := by
  rw [linesOf_eq] at h
  split at h
  · exact List.mem_of_mem_dropLast h
  · exact h

/-- lines without breaks, each ended by one, are the lines of their text -/
theorem linesOf_flatMap {ls : List (List Char)} (h : ∀ l ∈ ls, '\n' ∉ l) :
    linesOf (ls.flatMap fun l => l ++ ['\n']) = ls := by
  rw [linesOf_eq, splitOn_flatMap h]
  simp

theorem toList_frameLines (s : String) : (frameLines s).toList = framed (linesOf s.toList) := by
  rw [frameLines, String.toList_ofList, framed]

theorem not_mem_break_framed {cs : List Char} : '\n' ∉ framed (linesOf cs) := by
  rw [framed, List.mem_flatMap]
  rintro ⟨l, hl, hc⟩
  rcases List.mem_append.1 hc with hc | hc
  · exact not_mem_of_mem_splitOn (mem_linesOf hl) hc
  · exact absurd hc (by decide)

/-- every record that is read of framed lines is safe -/
theorem safe_of_mem_records {cs r : List Char} (h : r ∈ recordsOf (framed (linesOf cs))) : Safe r := by
  rw [recordsOf, List.mem_filter, List.mem_map] at h
  obtain ⟨⟨p, hp, rfl⟩, -⟩ := h
  rw [dropBreak_of_not_mem fun hc => not_mem_break_framed (mem_of_mem_cut hp hc)]
  exact safe_of_mem_cut hp

/-- the lines of a text are read back, the empty ones left out, if all of them are safe -/
theorem recordsOf_linesOf {cs : List Char} (h : ∀ l ∈ cs.splitOn '\n', Safe l) :
    recordsOf (framed (linesOf cs)) = (cs.splitOn '\n').filter fun l => !l.isEmpty := by
  rw [recordsOf_framed (fun l hl => h l (mem_linesOf hl))
    (fun l hl => dropBreak_of_not_mem (not_mem_of_mem_splitOn (mem_linesOf hl))), nonempty_linesOf]

/-- **Framing loses nothing exactly when all lines are safe.** The records of the framed lines of a text are its
non-empty lines, in order, if and only if no line holds the delimiter and none ends with all of it but its last
character. -/
theorem records_frameLines_eq_iff (raw : String) :
    records (frameLines raw) = ((raw.toList.splitOn '\n').filter fun l => !l.isEmpty).map String.ofList ↔
      ∀ l ∈ raw.toList.splitOn '\n', ¬ "@delimiter@".toList <:+: l ∧ ¬ "@delimiter".toList <:+ l := by
  change _ ↔ ∀ l ∈ raw.toList.splitOn '\n', Safe l
  rw [records, toList_frameLines]
  constructor
  · intro h l hl
    by_cases hne : l = []
    · rw [hne]
      exact safe_nil
    · have hmem : l ∈ (raw.toList.splitOn '\n').filter fun l => !l.isEmpty := by
        rw [List.mem_filter]
        exact ⟨hl, by simpa using hne⟩
      rw [← List.map_injective_iff.2 (fun _ _ => String.ofList_injective) h] at hmem
      exact safe_of_mem_records hmem
  · intro h
    rw [recordsOf_linesOf h]

/-- safe lines that are not empty come back from a text in which each is ended by a break -/
theorem recordsOf_frameLines {ls : List (List Char)} (hsafe : ∀ l ∈ ls, Safe l) (hbreak : ∀ l ∈ ls, '\n' ∉ l)
    (hne : ∀ l ∈ ls, l ≠ []) :
    recordsOf (frameLines (String.ofList (ls.flatMap fun l => l ++ ['\n']))).toList = ls := by
  rw [toList_frameLines, String.toList_ofList, linesOf_flatMap hbreak,
    recordsOf_framed hsafe fun l hl => dropBreak_of_not_mem (hbreak l hl), List.filter_eq_self]
  intro l hl
  simpa using hne l hl

end ChangeLint.Framing
