/-
Ordered sets are in order: under an order that compares any two different elements, each member of `orderedSet` comes
before all that stand behind it. What is found first in a list that is in order comes before all else with the property.

The order of changes is such an order, so a set of changes has each of its members once (`ChangeSet.nodup_ofList`), and
sets with the same members are equal (`ChangeSet.ofList_eq_iff`).
-/
import ChangeLint.Change.Basic
import Mathlib.Data.Prod.Lex
import Mathlib.Data.String.Basic
import Mathlib.Tactic

namespace ChangeLint

variable {α : Type} [DecidableEq α] {before : α → α → Bool} {a : α} {as bs : List α}

theorem pairwise_insertOrdered (htrans : ∀ x y z, before x y → before y z → before x z)
    (htotal : ∀ x y, x ≠ y → ¬ before x y → before y x) (h : bs.Pairwise fun x y => before x y) :
    (insertOrdered before a bs).Pairwise fun x y => before x y := by
  induction bs with
  | nil => simp [insertOrdered]
  | cons b bs ih =>
    obtain ⟨hb, hbs⟩ := List.pairwise_cons.1 h
    simp only [insertOrdered]
    split
    · exact h
    · rename_i hne
      split
      · rename_i hab
        refine List.pairwise_cons.2 ⟨fun x hx => ?_, h⟩
        rcases List.mem_cons.1 hx with rfl | hx
        · exact hab
        · exact htrans a b x hab (hb x hx)
      · rename_i hab
        refine List.pairwise_cons.2 ⟨fun x hx => ?_, ih hbs⟩
        rcases mem_insertOrdered.1 hx with rfl | hx
        · exact htotal x b hne hab
        · exact hb x hx

/-- **Ordered sets are in order** -/
theorem pairwise_orderedSet (htrans : ∀ x y z, before x y → before y z → before x z)
    (htotal : ∀ x y, x ≠ y → ¬ before x y → before y x) : (orderedSet before as).Pairwise fun x y => before x y := by
  induction as with
  | nil => exact List.Pairwise.nil
  | cons a as ih => exact pairwise_insertOrdered htrans htotal ih

omit [DecidableEq α] in
/-- a member with a property is found first if none before it has the property -/
theorem find?_eq_some_of_pairwise {p : α → Bool} (hsorted : as.Pairwise fun x y => before x y) (hmem : a ∈ as)
    (ha : p a = true) (hbefore : ∀ x ∈ as, before x a → ¬ p x = true) : as.find? p = some a := by
  induction as with
  | nil => cases hmem
  | cons b as ih =>
    obtain ⟨hb, hsorted⟩ := List.pairwise_cons.1 hsorted
    rw [List.find?_cons]
    cases hpb : p b with
    | true =>
      rcases List.mem_cons.1 hmem with rfl | hmem
      · rfl
      · exact absurd hpb (hbefore b List.mem_cons_self (hb a hmem))
    | false =>
      rcases List.mem_cons.1 hmem with rfl | hmem
      · rw [hpb] at ha
        cases ha
      · exact ih hsorted hmem fun x hx => hbefore x (List.mem_cons_of_mem b hx)

omit [DecidableEq α] in
/-- what is found first is, or comes before, whatever has the property -/
theorem eq_or_before_of_find? {p : α → Bool} {b : α} (hsorted : as.Pairwise fun x y => before x y)
    (hfind : as.find? p = some a) (hmem : b ∈ as) (hb : p b = true) : b = a ∨ before a b := by
  obtain ⟨-, front, rest, rfl, hfront⟩ := List.find?_eq_some_iff_append.1 hfind
  rcases List.mem_append.1 hmem with hmem | hmem
  · have hno := hfront b hmem
    rw [hb] at hno
    cases hno
  · rcases List.mem_cons.1 hmem with rfl | hmem
    · exact .inl rfl
    · exact .inr ((List.pairwise_cons.1 (List.pairwise_append.1 hsorted).2.1).1 b hmem)

/-! ## Sets of changes -/

namespace FileChange

/-- what changes are ordered by: kind, paths and, of two renames, whether the content is new -/
def key : FileChange → ℕ ×ₗ String ×ₗ String ×ₗ Bool
  | .added p => toLex (0, toLex (p, toLex ("", false)))
  | .deleted p => toLex (1, toLex (p, toLex ("", false)))
  | .modified p => toLex (2, toLex (p, toLex ("", false)))
  | .renamed p q b => toLex (3, toLex (p, toLex (q, b)))

theorem key_injective : Function.Injective key := by
  intro x y h
  cases x <;> cases y <;> simp_all [key]

/-- **The order of changes** is the one of their keys -/
theorem before_iff (x y : FileChange) : x.before y = true ↔ x.key < y.key := by
  cases x <;> cases y <;>
    simp [before, key, rank, Prod.Lex.toLex_lt_toLex, Bool.lt_iff, and_assoc]

theorem before_trans (x y z : FileChange) (hxy : x.before y) (hyz : y.before z) : x.before z := by
  rw [before_iff] at hxy hyz ⊢
  exact lt_trans hxy hyz

theorem before_total (x y : FileChange) (hne : x ≠ y) (h : ¬ x.before y) : y.before x := by
  rw [before_iff] at h ⊢
  exact lt_of_le_of_ne (not_lt.1 h) fun he => hne (key_injective he.symm)

theorem before_irrefl (x : FileChange) : ¬ x.before x := by
  rw [before_iff]
  exact lt_irrefl _

end FileChange

namespace ChangeSet

/-- a set of changes has each of its members once -/
theorem nodup_ofList (changes : List FileChange) : (ofList changes).members.Nodup := by
  refine (pairwise_orderedSet FileChange.before_trans FileChange.before_total).imp fun {x y} hxy he => ?_
  rw [he] at hxy
  exact FileChange.before_irrefl y hxy

/-- its members are the changes of the list without repetition -/
theorem members_ofList_perm (changes : List FileChange) : (ofList changes).members.Perm changes.dedup :=
  (List.perm_ext_iff_of_nodup (nodup_ofList changes) changes.nodup_dedup).2 fun c => by
    rw [List.mem_dedup]
    exact mem_ofList

/-- sets with the same members are equal, whatever lists they are made from -/
theorem ofList_eq_iff {changes changes' : List FileChange} :
    ofList changes = ofList changes' ↔ ∀ c, c ∈ changes ↔ c ∈ changes' := by
  constructor
  · intro h c
    rw [← mem_ofList, h, mem_ofList]
  · intro h
    have hperm : (ofList changes).members.Perm (ofList changes').members :=
      (List.perm_ext_iff_of_nodup (nodup_ofList changes) (nodup_ofList changes')).2 fun c => by
        exact mem_ofList.trans ((h c).trans mem_ofList.symm)
    have hsorted : ∀ l : List FileChange, (ofList l).members.Pairwise fun x y => x.before y = true := fun _ =>
      pairwise_orderedSet FileChange.before_trans FileChange.before_total
    have hmembers := hperm.eq_of_pairwise
      (fun a b _ _ hab hba => absurd (FileChange.before_trans a b a hab hba) (FileChange.before_irrefl a))
      (hsorted changes) (hsorted changes')
    exact congrArg ChangeSet.mk hmembers

end ChangeSet

end ChangeLint
