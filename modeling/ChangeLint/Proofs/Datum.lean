/-
Members of tables.

`Keyed ms`: no two members have one key. Setting a member keeps that (`Keyed.put`), and the member with a key is then the
one that was set (`get?_put`). `Distinct d`: all tables in a datum are keyed, however deep they lie.
-/
import ChangeLint.Datum
import Mathlib.Tactic

namespace ChangeLint.Datum

/-- no two members have one key -/
def Keyed (ms : List (String × Datum)) : Prop := (ms.map Prod.fst).Nodup

instance (ms : List (String × Datum)) : Decidable (Keyed ms) := inferInstanceAs (Decidable (ms.map Prod.fst).Nodup)

variable {ms ns : List (String × Datum)} {k l : String} {d v : Datum}

/-! ## The member with a key -/

@[simp] theorem get?_nil (k : String) : get? k [] = none := rfl

theorem get?_cons (m : String × Datum) (ms : List (String × Datum)) (k : String) :
    get? k (m :: ms) = if m.1 = k then some m.2 else get? k ms := by
  unfold get?
  by_cases h : m.1 = k
  · rw [List.find?_cons_of_pos (by simpa using h), if_pos h]
    rfl
  · rw [List.find?_cons_of_neg (by simpa using h), if_neg h]

theorem get?_append (ms ns : List (String × Datum)) (k : String) : get? k (ms ++ ns) = (get? k ms).or (get? k ns) := by
  rw [get?, get?, get?, List.find?_append]
  cases ms.find? (fun m => m.1 = k) <;> rfl

theorem isSome_get?_iff : (get? k ms).isSome = true ↔ k ∈ ms.map Prod.fst := by
  simp [get?]

theorem get?_eq_none_iff : get? k ms = none ↔ k ∉ ms.map Prod.fst := by
  rw [← isSome_get?_iff, Option.not_isSome_iff_eq_none]

theorem mem_of_get? {κ : Type} [DecidableEq κ] {k : κ} {ms : List (κ × Datum)} (h : get? k ms = some d) : (k, d) ∈ ms := by
  obtain ⟨m, hm, rfl⟩ := Option.map_eq_some_iff.1 h
  have hkey : m.1 = k := by simpa using List.find?_some hm
  rw [← hkey]
  exact List.mem_of_find?_eq_some hm

theorem get?_of_mem {m : String × Datum} (h : Keyed ms) (hm : m ∈ ms) : get? m.1 ms = some m.2 := by
  induction ms with
  | nil => cases hm
  | cons n ms ih =>
    obtain ⟨hn, hms⟩ := List.nodup_cons.1 h
    rw [get?_cons]
    rcases List.mem_cons.1 hm with rfl | hm
    · rw [if_pos rfl]
    · have hne : n.1 ≠ m.1 := fun he => hn (he.symm ▸ List.mem_map_of_mem hm)
      rw [if_neg hne, ih hms hm]

/-! ## Setting a member -/

theorem put_of_mem (h : k ∈ ms.map Prod.fst) (v : Datum) : put ms k v = ms.map fun m => if m.1 = k then (k, v) else m := by
  rw [put, if_pos]
  obtain ⟨m, hm, rfl⟩ := List.mem_map.1 h
  exact List.any_eq_true.2 ⟨m, hm, by simp⟩

theorem put_of_not_mem (h : k ∉ ms.map Prod.fst) (v : Datum) : put ms k v = ms ++ [(k, v)] := by
  rw [put, if_neg]
  simp only [List.any_eq_true, decide_eq_true_eq, not_exists, not_and]
  intro m hm hk
  exact h (hk ▸ List.mem_map_of_mem hm)

/-- what is in a table with a member set was there before or is what was set -/
theorem mem_or_eq_of_mem_put {κ : Type} [DecidableEq κ] {ms : List (κ × Datum)} {key : κ} {m : κ × Datum}
    (h : m ∈ put ms key v) : m ∈ ms ∨ m.2 = v := by
  unfold put at h
  split at h
  · obtain ⟨n, hn, rfl⟩ := List.mem_map.1 h
    split
    · exact .inr rfl
    · exact .inl hn
  · rcases List.mem_append.1 h with h | h
    · exact .inl h
    · exact .inr (by rw [List.mem_singleton.1 h])

/-- the keys stay in their order -/
theorem keys_put (ms : List (String × Datum)) (k : String) (v : Datum) :
    (put ms k v).map Prod.fst = if k ∈ ms.map Prod.fst then ms.map Prod.fst else ms.map Prod.fst ++ [k] := by
  by_cases h : k ∈ ms.map Prod.fst
  · rw [put_of_mem h, if_pos h, List.map_map]
    refine List.map_congr_left fun m _ => ?_
    by_cases hm : m.1 = k <;> simp [hm]
  · rw [put_of_not_mem h, if_neg h, List.map_append]
    rfl

theorem Keyed.put (h : Keyed ms) (k : String) (v : Datum) : Keyed (put ms k v) := by
  unfold Keyed
  rw [keys_put]
  split
  · exact h
  · rename_i hnew
    rw [List.nodup_append]
    exact ⟨h, List.nodup_singleton k, fun l hl m hm => by rw [List.mem_singleton.1 hm]; rintro rfl; exact hnew hl⟩

theorem get?_map_set (ms : List (String × Datum)) (k l : String) (v : Datum) :
    get? l (ms.map fun m => if m.1 = k then (k, v) else m) =
      if l = k then (get? k ms).map (fun _ => v) else get? l ms := by
  induction ms with
  | nil => simp
  | cons m ms ih =>
    rw [List.map_cons, get?_cons, get?_cons, get?_cons, ih]
    by_cases hm : m.1 = k
    · by_cases hl : l = k
      · simp [hm, hl]
      · have hne : k ≠ l := Ne.symm hl
        simp [hm, hl, hne]
    · by_cases hl : l = k
      · simp [hm, hl]
      · simp [hm, hl]

/-- **The member that was set is the one that is there** -/
theorem get?_put (ms : List (String × Datum)) (k l : String) (v : Datum) :
    get? l (put ms k v) = if l = k then some v else get? l ms := by
  by_cases hmem : k ∈ ms.map Prod.fst
  · obtain ⟨d, hd⟩ := Option.isSome_iff_exists.1 (isSome_get?_iff.2 hmem)
    rw [put_of_mem hmem, get?_map_set, hd]
    rfl
  · rw [put_of_not_mem hmem, get?_append]
    by_cases hl : l = k
    · rw [if_pos hl, hl, get?_eq_none_iff.2 hmem, get?_cons, if_pos rfl]
      rfl
    · rw [if_neg hl, get?_cons, if_neg fun h => hl h.symm]
      simp

/-- a keyed table holds the member that it is asked for, if that is the member with its key -/
theorem get?_filter (h : Keyed ms) (p : String × Datum → Bool) (k : String) :
    get? k (ms.filter p) = (get? k ms).filter fun d => p (k, d) := by
  induction ms with
  | nil => rfl
  | cons m ms ih =>
    obtain ⟨hnew, hrest⟩ := List.nodup_cons.1 h
    rw [List.filter_cons, get?_cons]
    by_cases hm : m.1 = k
    · have hnone : get? k ms = none := get?_eq_none_iff.2 (hm ▸ hnew)
      rw [if_pos hm]
      cases hp : p m with
      | true =>
        rw [if_pos rfl, get?_cons, if_pos hm, Option.filter_some, if_pos (hm ▸ hp)]
      | false =>
        rw [if_neg Bool.false_ne_true, ih hrest, hnone, Option.filter_some, if_neg]
        · rfl
        · rw [← hm, hp]
          exact Bool.false_ne_true
    · rw [if_neg hm]
      cases p m with
      | true => rw [if_pos rfl, get?_cons, if_neg hm, ih hrest]
      | false => rw [if_neg Bool.false_ne_true, ih hrest]

theorem Keyed.filter (h : Keyed ms) (p : String × Datum → Bool) : Keyed (ms.filter p) :=
  List.Nodup.sublist (List.filter_sublist.map Prod.fst) h

/-! ## Data with keyed tables -/

/-- no table in a datum has two members with one key -/
inductive Distinct : Datum → Prop
  | list {items : List Datum} (h : ∀ d ∈ items, Distinct d) : Distinct (.list items)
  | table {ms : List (String × Datum)} (hkeys : Keyed ms) (h : ∀ m ∈ ms, Distinct m.2) : Distinct (.table ms)
  | null : Distinct .null
  | bool (b : Bool) : Distinct (.bool b)
  | int (n : Int) : Distinct (.int n)
  | real (x : Binary64) : Distinct (.real x)
  | text (s : String) : Distinct (.text s)
  | moment (m : Moment) : Distinct (.moment m)

theorem Distinct.keyed (h : Distinct (.table ms)) : Keyed ms := by
  cases h with
  | table hkeys _ => exact hkeys

theorem Distinct.members (h : Distinct (.table ms)) : ∀ m ∈ ms, Distinct m.2 := by
  cases h with
  | table _ hms => exact hms

theorem Distinct.items {items : List Datum} (h : Distinct (.list items)) : ∀ d ∈ items, Distinct d := by
  cases h with
  | list hitems => exact hitems

theorem distinct_nil : Distinct (.table []) := .table List.nodup_nil nofun

theorem Distinct.get? (h : Distinct (.table ms)) (hk : get? k ms = some d) : Distinct d := h.members _ (mem_of_get? hk)

theorem Distinct.put (h : Distinct (.table ms)) (hv : Distinct v) (k : String) : Distinct (.table (put ms k v)) := by
  refine .table (h.keyed.put k v) fun m hm => ?_
  rcases mem_or_eq_of_mem_put hm with hm | hm
  · exact h.members m hm
  · exact hm ▸ hv

/-- a member with a new key -/
theorem Distinct.append (h : Distinct (.table ms)) (hnew : Datum.get? k ms = none) (hv : Distinct v) :
    Distinct (.table (ms ++ [(k, v)])) := by
  rw [← put_of_not_mem (get?_eq_none_iff.1 hnew)]
  exact h.put hv k

end ChangeLint.Datum
