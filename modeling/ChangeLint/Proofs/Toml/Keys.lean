/-
Keys of a TOML document.

What is read holds no table with two members of one key (`distinct_grammar`). Values have no such tables (`readsDistinct`),
and a statement that sets a key has made sure that it is new there: what stands behind a key is changed only in ways that
keep the tables keyed (`distinct_changeBehind`).
-/
import ChangeLint.Proofs.Datum
import ChangeLint.Proofs.Except
import ChangeLint.Toml.Document

namespace ChangeLint

namespace Toml

open Datum (Distinct Keyed)

variable {ms ms' t : Members} {k : Key} {d v : Datum} {cs rest : List Char} {fuel : Nat}

/-! ## Behind a key -/

theorem behind?_nil (through : Bool) (k : Key) : behind? through k [] = some [] := by
  cases k <;> rfl

/-- **Changing what stands behind a key** keeps the tables keyed if the change does -/
theorem distinct_changeBehind {through : Bool} {f : Members → Option Members} (hms : Distinct (.table ms))
    (hf : ∀ t, behind? through k ms = some t → Distinct (.table t) → ∀ t', f t = some t' → Distinct (.table t'))
    (h : changeBehind through f k ms = some ms') : Distinct (.table ms') := by
  induction k generalizing ms ms' with
  | nil => exact hf ms rfl hms ms' h
  | cons name k ih =>
    rw [changeBehind] at h
    split at h
    · -- the table is made on the way
      rename_i hnone
      obtain ⟨t, ht, rfl⟩ := Option.map_eq_some_iff.1 h
      refine hms.put (ih Datum.distinct_nil (fun u hu => hf u ?_) ht) name
      rw [behind?, hnone]
      rwa [behind?_nil] at hu
    · rename_i sub hsub
      obtain ⟨t, ht, rfl⟩ := Option.map_eq_some_iff.1 h
      refine hms.put (ih (hms.get? hsub) (fun u hu => hf u ?_) ht) name
      rw [behind?, hsub]
      exact hu
    · rename_i items hitems
      split at h
      · -- the last table of an array
        rename_i sub hlast
        obtain ⟨t, ht, rfl⟩ := Option.map_eq_some_iff.1 h
        have hall := (hms.get? hitems).items
        have hsub := hall _ (List.mem_of_getLast? hlast)
        have ht' := ih hsub (fun u hu => hf u (by rw [behind?, hitems]; simp only [hlast]; exact hu)) ht
        refine hms.put (.list fun x hx => ?_) name
        rcases List.mem_append.1 hx with hx | hx
        · exact hall x (List.dropLast_subset items hx)
        · rw [List.mem_singleton.1 hx]
          exact ht'
      · cases h
    · cases h

theorem distinct_openTable (hms : Distinct (.table ms)) (h : openTable k ms = some ms') : Distinct (.table ms') :=
  distinct_changeBehind hms (fun t _ ht t' htt' => by cases htt'; exact ht) h

theorem distinct_appendTable (hms : Distinct (.table ms)) (h : appendTable k ms = some ms') : Distinct (.table ms') := by
  have hempty : ∀ x ∈ [Datum.table []], Distinct x := by
    intro x hx
    rw [List.mem_singleton.1 hx]
    exact Datum.distinct_nil
  unfold appendTable at h
  split at h
  · cases h
  · rename_i last _
    refine distinct_changeBehind hms (fun t _ ht t' htt' => ?_) h
    split at htt'
    · rename_i hnew
      cases htt'
      exact ht.append hnew (.list hempty)
    · rename_i items hitems
      cases htt'
      refine ht.put (.list fun x hx => ?_) last
      rcases List.mem_append.1 hx with hx | hx
      · exact (ht.get? hitems).items x hx
      · exact hempty x hx
    · cases htt'

/-- a key that is set behind another one must be new there -/
theorem distinct_insert {through : Bool} {last : String} (hms : Distinct (.table ms)) (hv : Distinct v)
    (hbehind : behind? through k ms = some t) (hnew : (Datum.get? last t).isSome = false)
    (h : changeBehind through (fun t => some (t ++ [(last, v)])) k ms = some ms') : Distinct (.table ms') := by
  refine distinct_changeBehind hms (fun u hu hdistinct t' htt' => ?_) h
  cases htt'
  rw [hbehind] at hu
  cases hu
  exact hdistinct.append (Option.not_isSome_iff_eq_none.1 (by rw [hnew]; exact Bool.false_ne_true)) hv

theorem distinct_addInline {marks : List Mark} (hms : Distinct (.table ms)) (hv : Distinct v)
    (h : addInline marks ms k v rest = .ok ms') : Distinct (.table ms') := by
  unfold addInline at h
  split at h
  · cases h
  · simp only at h
    split at h
    · cases h
    · rename_i t hbehind
      split at h
      · cases h
      · rename_i hnew
        split at h
        · cases h
        · rename_i ms'' hchange
          cases h
          exact distinct_insert hms hv hbehind (Bool.eq_false_iff.2 hnew) hchange

/-! ## Values -/

theorem distinct_word? (h : word? cs = some (d, rest)) : Distinct d := by
  unfold word? at h
  split at h
  · cases h
    exact .bool true
  · cases h
    exact .bool false
  · cases h

theorem distinct_moment? (h : moment? cs = some (.ok (d, rest))) : Distinct d := by
  unfold moment? at h
  split at h
  · rw [Option.some_inj] at h
    split at h
    · cases h
    · split at h
      · cases h
        exact .moment _
      · cases h
        exact .moment _
  · obtain ⟨⟨time, after⟩, -, h⟩ := Option.map_eq_some_iff.1 h
    cases h
    exact .moment _

theorem distinct_number? (h : number? cs = some (.ok (d, rest))) : Distinct d := by
  unfold number? at h
  split at h
  · cases h
    exact .int _
  · obtain ⟨⟨ds, after⟩, -, h⟩ := Option.map_eq_some_iff.1 h
    dsimp only at h
    split at h
    · split at h
      · cases h
      · cases h
        exact .int _
    · cases h
      exact .real _

theorem distinct_namedReal? (h : namedReal? cs = some (d, rest)) : Distinct d := by
  unfold namedReal? at h
  dsimp only at h
  split at h
  · cases h
    exact .real _
  · cases h
    exact .real _
  · cases h

theorem distinct_scalar (h : scalar cs = .ok (d, rest)) : Distinct d := by
  unfold scalar at h
  split at h
  · rename_i found hword
    cases h
    exact distinct_word? hword
  · split at h
    · rename_i r hmoment
      rw [h] at hmoment
      exact distinct_moment? hmoment
    · split at h
      · rename_i r hnumber
        rw [h] at hnumber
        exact distinct_number? hnumber
      · split at h
        · rename_i found hnamed
          cases h
          exact distinct_namedReal? hnamed
        · cases h

/-- what the readers of values, items, members and pairs have in common: what is found is distinct, if what was found
before is -/
structure ReadsDistinct (fuel : Nat) : Prop where
  value : ∀ {cs d rest}, value fuel cs = .ok (d, rest) → Distinct d
  items : ∀ {found cs d rest}, (∀ x ∈ found, Distinct x) → items fuel found cs = .ok (d, rest) → Distinct d
  inline : ∀ {marks ms cs d rest}, Distinct (.table ms) → inline fuel marks ms cs = .ok (d, rest) → Distinct d
  pair : ∀ {cs k d rest}, pair fuel cs = .ok ((k, d), rest) → Distinct d

theorem ReadsDistinct.value_succ (ih : ReadsDistinct fuel) (h : Toml.value (fuel + 1) cs = .ok (d, rest)) : Distinct d := by
  cases cs with
  | nil => cases h
  | cons c body =>
    rw [Toml.value] at h
    split at h
    · obtain ⟨r, -, hr⟩ := map_eq_ok h
      cases hr
      exact .text _
    · split at h
      · split at h
        · cases h
        · cases h
          exact .list nofun
        · exact ih.items (fun x hx => absurd hx List.not_mem_nil) h
      · split at h
        · split at h
          · cases h
            exact Datum.distinct_nil
          · exact ih.inline Datum.distinct_nil h
        · exact distinct_scalar h

theorem ReadsDistinct.items_succ (ih : ReadsDistinct fuel) {found : List Datum} (hfound : ∀ x ∈ found, Distinct x)
    (h : Toml.items (fuel + 1) found cs = .ok (d, rest)) : Distinct d := by
  rw [Toml.items] at h
  split at h
  · cases h
  · rename_i item after hvalue
    have hall : ∀ x ∈ found ++ [item], Distinct x := by
      intro x hx
      rcases List.mem_append.1 hx with hx | hx
      · exact hfound x hx
      · rw [List.mem_singleton.1 hx]
        exact ih.value hvalue
    dsimp only at h
    split at h
    · cases h
    · cases h
      exact .list hall
    · split at h
      · cases h
      · cases h
        exact .list hall
      · exact ih.items hall h
    · cases h

theorem ReadsDistinct.inline_succ (ih : ReadsDistinct fuel) {marks : List Mark} (hms : Distinct (.table ms))
    (h : Toml.inline (fuel + 1) marks ms cs = .ok (d, rest)) : Distinct d := by
  rw [Toml.inline] at h
  split at h
  · cases h
  · rename_i key item after hpair
    split at h
    · cases h
    · rename_i ms' hadd
      have hms' := distinct_addInline hms (ih.pair hpair) hadd
      split at h
      · cases h
        exact hms'
      · exact ih.inline hms' h
      · cases h

theorem ReadsDistinct.pair_succ (ih : ReadsDistinct fuel) (h : Toml.pair (fuel + 1) cs = .ok ((k, d), rest)) :
    Distinct d := by
  rw [Toml.pair] at h
  split at h
  · cases h
  · rename_i key after hkey
    obtain ⟨r, hvalue, hr⟩ := map_eq_ok h
    cases hr
    exact ih.value hvalue
  · cases h

/-- **Values hold keyed tables only** -/
theorem readsDistinct (fuel : Nat) : ReadsDistinct fuel := by
  induction fuel with
  | zero =>
    refine ⟨?_, ?_, ?_, ?_⟩
    · intro cs d rest h
      simp [Toml.value, refuse] at h
    · intro found cs d rest _ h
      simp [Toml.items, refuse] at h
    · intro marks ms cs d rest _ h
      simp [Toml.inline, refuse] at h
    · intro cs k d rest h
      simp [Toml.pair, refuse] at h
  | succ fuel ih => exact ⟨ih.value_succ, ih.items_succ, ih.inline_succ, ih.pair_succ⟩

/-! ## Documents -/

namespace Draft

variable {draft draft' : Draft}

theorem distinct_declareTable (hd : Distinct (.table draft.members)) (h : draft.declareTable cs = .ok (draft', rest)) :
    Distinct (.table draft'.members) := by
  unfold declareTable at h
  obtain ⟨⟨k, after⟩, -, h⟩ := bind_eq_ok h
  dsimp only at h
  split at h
  · cases h
  · split at h
    · cases h
    · rename_i ms hopen
      split at h
      · cases h
        exact distinct_openTable hd hopen
      · cases h

theorem distinct_declareItem (hd : Distinct (.table draft.members)) (h : draft.declareItem cs = .ok (draft', rest)) :
    Distinct (.table draft'.members) := by
  unfold declareItem at h
  obtain ⟨⟨k, after⟩, -, h⟩ := bind_eq_ok h
  dsimp only at h
  split at h
  · cases h
  · split at h
    · cases h
    · rename_i ms happend
      split at h
      · cases h
        exact distinct_appendTable hd happend
      · cases h

/-- a key is set where no member has it -/
theorem distinct_set (hd : Distinct (.table draft.members)) (hv : Distinct v) (h : draft.set k v rest = .ok draft') :
    Distinct (.table draft'.members) := by
  unfold set at h
  dsimp only at h
  split at h
  · cases h
  · split at h
    · cases h
    · split at h
      · cases h
      · rename_i t hbehind
        split at h
        · cases h
        · rename_i hnew
          split at h
          · cases h
          · rename_i ms hchange
            cases h
            exact distinct_insert hd hv hbehind (Bool.eq_false_iff.2 hnew) hchange

theorem distinct_statement (hd : Distinct (.table draft.members)) (h : draft.statement cs = .ok (draft', rest)) :
    Distinct (.table draft'.members) := by
  unfold statement at h
  split at h
  · cases h
    exact hd
  · rename_i c body
    split at h
    · obtain ⟨⟨⟨k, v⟩, after⟩, hpair, h⟩ := bind_eq_ok h
      obtain ⟨next, hset, h⟩ := bind_eq_ok h
      cases h
      exact distinct_set hd ((readsDistinct _).pair hpair) hset
    · split at h
      · split at h
        · obtain ⟨r, hitem, hr⟩ := map_eq_ok h
          cases hr
          exact @distinct_declareItem _ _ draft.settle _ hd hitem
        · obtain ⟨r, htable, hr⟩ := map_eq_ok h
          cases hr
          exact @distinct_declareTable _ _ draft.settle _ hd htable
      · split at h
        · cases h
          exact hd
        · cases h

theorem distinct_statements (hd : Distinct (.table draft.members)) (h : draft.statements fuel cs = .ok draft') :
    Distinct (.table draft'.members) := by
  induction fuel generalizing draft cs with
  | zero =>
    cases h
    exact hd
  | succ fuel ih =>
    rw [statements] at h
    split at h
    · cases h
      exact hd
    · exact ih hd h
    · split at h
      · cases h
      · rename_i next rest hstatement
        have hnext := distinct_statement hd hstatement
        split at h
        · cases h
        · cases h
          exact hnext
        · exact ih hnext h
        · cases h

end Draft

/-- **No table of a document has two members with one key** -/
theorem distinct_grammar (h : grammar cs = .ok ms) : Distinct (.table ms) := by
  obtain ⟨draft, hrun, rfl⟩ := map_eq_ok h
  exact Draft.distinct_statements Datum.distinct_nil hrun

/-- what is read is what the grammar says -/
theorem grammar_of_read [Interpreter] (h : read cs = .ok ms) : grammar cs = .ok ms := by
  unfold read at h
  split at h
  · cases h
  · exact h

end Toml

end ChangeLint
