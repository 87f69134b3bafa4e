/-
What happened to a file between two states of a repository: it was added, deleted, modified or renamed. A `ChangeSet` is
a finite set of such changes, kept in order and without repetition, so that sets with the same members are equal.

`FileChange.current?` is the path that is there afterwards, `FileChange.diffable?` the path whose content is new.
-/
namespace ChangeLint

/-- one change of one file; a rename tells whether the content changed with the name -/
inductive FileChange
  | added (path : String)
  | deleted (path : String)
  | modified (path : String)
  | renamed (old new : String) (contentModified : Bool)
deriving DecidableEq, Repr

namespace FileChange

/-- the path that is there after the change -/
def current? : FileChange → Option String
  | .added p => some p
  | .deleted _ => none
  | .modified p => some p
  | .renamed _ new _ => some new

/-- the path whose content is new; a bare rename has none -/
def diffable? : FileChange → Option String
  | .added p => some p
  | .deleted _ => none
  | .modified p => some p
  | .renamed _ new changed => if changed then some new else none

def rank : FileChange → Nat
  | .added _ => 0
  | .deleted _ => 1
  | .modified _ => 2
  | .renamed _ _ _ => 3

/-- the order of changes: by kind, then by paths, a bare rename before one with new content -/
def before (x y : FileChange) : Bool :=
  match x, y with
  | .added p, .added q => p < q
  | .deleted p, .deleted q => p < q
  | .modified p, .modified q => p < q
  | .renamed p p' b, .renamed q q' c => p < q || (p = q && (p' < q' || (p' = q' && !b && c)))
  | x, y => x.rank < y.rank

end FileChange

/-- inserts into an ordered list without repetition -/
def insertOrdered {α : Type} [DecidableEq α] (before : α → α → Bool) (a : α) : List α → List α
  | [] => [a]
  | b :: bs => if a = b then b :: bs else if before a b then a :: b :: bs else b :: insertOrdered before a bs

/-- the members of a list in order, each once -/
def orderedSet {α : Type} [DecidableEq α] (before : α → α → Bool) (as : List α) : List α :=
  as.foldr (insertOrdered before) []

/-- membership in an ordered set is membership in the list with the new element in front -/
theorem mem_insertOrdered {α : Type} [DecidableEq α] {before : α → α → Bool} {a x : α} {bs : List α} :
    x ∈ insertOrdered before a bs ↔ x = a ∨ x ∈ bs := by
  induction bs with
  | nil => simp [insertOrdered]
  | cons b bs ih =>
    simp only [insertOrdered]
    split
    · rename_i h
      subst h
      simp
    · split
      · simp
      · simp only [List.mem_cons, ih]
        constructor
        · rintro (h | h | h) <;> simp [h]
        · rintro (h | h | h) <;> simp [h]

/-- an ordered set has the members of the list -/
theorem mem_orderedSet {α : Type} [DecidableEq α] {before : α → α → Bool} {x : α} {as : List α} :
    x ∈ orderedSet before as ↔ x ∈ as := by
  induction as with
  | nil => simp [orderedSet]
  | cons a as ih =>
    rw [List.mem_cons, ← ih]
    exact mem_insertOrdered

/-- texts in the order of their code points, each once -/
def orderedTexts (texts : List String) : List String := orderedSet (fun a b => a < b) texts

structure ChangeSet where
  members : List FileChange
deriving DecidableEq, Repr

namespace ChangeSet

def ofList (changes : List FileChange) : ChangeSet := ⟨orderedSet FileChange.before changes⟩

def empty : ChangeSet := ⟨[]⟩

def size (c : ChangeSet) : Nat := c.members.length

instance : Membership FileChange ChangeSet := ⟨fun s c => c ∈ s.members⟩

/-- the members of a set made from a list are those of the list -/
theorem mem_ofList {c : FileChange} {changes : List FileChange} : c ∈ ofList changes ↔ c ∈ changes :=
  mem_orderedSet

/-- the paths whose content is new, in order, each once -/
def diffablePaths (c : ChangeSet) : List String := orderedTexts (c.members.filterMap FileChange.diffable?)

/-- the paths that are there afterwards, in order, one for each change that has one -/
def currentPaths (c : ChangeSet) : List String :=
  (c.members.filterMap FileChange.current?).mergeSort fun a b => a ≤ b

end ChangeSet

end ChangeLint
