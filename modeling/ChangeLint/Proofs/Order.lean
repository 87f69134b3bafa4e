/-
Sorting by keys that can be compared.

`Comparable xs`: any two keys of the items have an order. Texts have one, and so have lists of texts (`exists_beforeItems`).
Then nothing can fail, and the items are put into another order (`exists_sort`).
-/
import ChangeLint.Order
import ChangeLint.Proofs.Except
import Mathlib.Tactic

namespace ChangeLint

/-- texts and lists of texts can be compared -/
theorem exists_beforeItems (ss ts : List String) :
    ∃ b, Datum.beforeItems (ss.map Datum.text) (ts.map Datum.text) = .ok b := by
  induction ss generalizing ts with
  | nil => exact ⟨_, rfl⟩
  | cons s ss ih =>
    cases ts with
    | nil => exact ⟨_, rfl⟩
    | cons t ts =>
      rw [List.map_cons, List.map_cons, Datum.beforeItems]
      split_ifs
      · exact ih ts
      · exact ⟨s < t, rfl⟩

namespace Order

variable {α : Type}

/-- any two keys of items can be compared -/
def Comparable (xs : List (List Datum × α)) : Prop := ∀ x ∈ xs, ∀ y ∈ xs, ∃ b, Datum.beforeItems x.1 y.1 = .ok b

variable {xs ys sorted : List (List Datum × α)} {x y : List Datum × α}

theorem Comparable.subset (h : Comparable xs) (hsubset : ys ⊆ xs) : Comparable ys :=
  fun x hx y hy => h x (hsubset hx) y (hsubset hy)

/-- a place is found among items whose keys can be compared with the new one -/
theorem exists_place (h : ∀ y ∈ sorted, ∃ b, Datum.beforeItems x.1 y.1 = .ok b) (fuel lo hi : Nat) :
    ∃ i, place x.1 sorted fuel lo hi = .ok i := by
  induction fuel generalizing lo hi with
  | zero => exact ⟨lo, rfl⟩
  | succ fuel ih =>
    rw [place]
    split_ifs
    · dsimp only
      cases hmid : sorted[(lo + hi) / 2]? with
      | none => exact ⟨lo, rfl⟩
      | some y =>
        obtain ⟨b, hb⟩ := h y (List.mem_of_getElem? hmid)
        dsimp only
        rw [hb, ok_bind]
        cases b with
        | true => exact ih lo ((lo + hi) / 2)
        | false => exact ih ((lo + hi) / 2 + 1) hi
    · exact ⟨lo, rfl⟩

theorem exists_insertAll (h : Comparable (sorted ++ xs)) :
    ∃ ys, insertAll sorted xs = .ok ys ∧ ys.Perm (sorted ++ xs) := by
  induction xs generalizing sorted with
  | nil => exact ⟨sorted, rfl, by rw [List.append_nil]⟩
  | cons x xs ih =>
    obtain ⟨i, hi⟩ := exists_place (fun y hy => h x (by simp) y (List.mem_append_left _ hy)) sorted.length 0 sorted.length
    have hperm : (sorted.take i ++ x :: sorted.drop i).Perm (x :: sorted) := by
      refine List.perm_middle.trans ?_
      rw [List.take_append_drop]
    have hall : (sorted.take i ++ x :: sorted.drop i ++ xs).Perm (sorted ++ x :: xs) :=
      (hperm.append_right xs).trans List.perm_middle.symm
    obtain ⟨ys, hys, hysperm⟩ := ih (h.subset hall.subset)
    refine ⟨ys, ?_, hysperm.trans hall⟩
    rw [insertAll, hi, ok_bind]
    exact hys

theorem exists_run (falling : Bool) (h : Comparable (x :: xs)) :
    ∃ front rest, run falling x.1 xs = .ok (front, rest) ∧ front ++ rest = xs := by
  induction xs generalizing x with
  | nil => exact ⟨[], [], rfl, rfl⟩
  | cons y xs ih =>
    obtain ⟨b, hb⟩ := h y (by simp) x (by simp)
    obtain ⟨front, rest, hrun, hxs⟩ := ih (h.subset (List.subset_cons_self x (y :: xs)))
    rw [run, hb, ok_bind]
    split_ifs
    · rw [hrun]
      exact ⟨y :: front, rest, rfl, by rw [List.cons_append, hxs]⟩
    · exact ⟨[], y :: xs, rfl, rfl⟩

/-- **Items whose keys can be compared are sorted**, and none is lost -/
theorem exists_sort (h : Comparable xs) : ∃ ys, sort xs = .ok ys ∧ ys.Perm xs := by
  match xs with
  | [] => exact ⟨[], rfl, .nil⟩
  | [x] => exact ⟨[x], rfl, .refl _⟩
  | x :: y :: more =>
    obtain ⟨falling, hfalling⟩ := h y (by simp) x (by simp)
    obtain ⟨front, rest, hrun, rfl⟩ := exists_run falling (h.subset (List.subset_cons_self x (y :: more)))
    have hperm : ((if falling then (x :: y :: front).reverse else x :: y :: front) ++ rest).Perm
        (x :: y :: (front ++ rest)) := by
      split_ifs
      · exact (List.reverse_perm _).append_right rest
      · exact .refl _
    obtain ⟨ys, hys, hysperm⟩ := exists_insertAll (h.subset hperm.subset)
    refine ⟨ys, ?_, hysperm.trans hperm⟩
    rw [sort, hfalling, ok_bind, hrun]
    exact hys

end Order

end ChangeLint
