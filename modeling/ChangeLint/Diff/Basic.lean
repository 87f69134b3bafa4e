/-
A diff as numbered lines. A `DiffLine` has a kind, its text and its numbers in the old and in the new file, each
missing where the line does not belong to that file or the number is not known. A `FileDiff` is the diff of one file.

`FileDiff.kindAt` tells what became of a line of the new file.
-/
namespace ChangeLint

inductive LineKind
  | context
  | added
  | removed
  | unchanged
  | metadata
deriving DecidableEq, Repr

namespace LineKind

def word : LineKind → String
  | .context => "context"
  | .added => "added"
  | .removed => "removed"
  | .unchanged => "unchanged"
  | .metadata => "metadata"

def all : List LineKind := [.context, .added, .removed, .unchanged, .metadata]

def ofWord? (s : String) : Option LineKind := all.find? fun k => k.word = s

/-- words stand for the kinds that have them -/
theorem ofWord?_word (k : LineKind) : ofWord? k.word = some k := by
  cases k <;> decide

end LineKind

structure DiffLine where
  kind : LineKind
  content : String
  oldNumber : Option Int
  newNumber : Option Int
deriving DecidableEq, Repr

/-- true when a number is the line's number in one of the files -/
def DiffLine.touches (l : DiffLine) (n : Int) : Bool := l.oldNumber = some n || l.newNumber = some n

theorem DiffLine.touches_iff {l : DiffLine} {n : Int} :
    l.touches n = true ↔ l.oldNumber = some n ∨ l.newNumber = some n := by
  simp only [touches, Bool.or_eq_true, decide_eq_true_eq]

/-- the diff of one file, its lines in the order of the source -/
structure FileDiff where
  oldPath : String
  newPath : String
  lines : List DiffLine
deriving DecidableEq, Repr

namespace FileDiff

/-- the first line with a given number in the new file -/
def lineAt? (d : FileDiff) (n : Int) : Option DiffLine := d.lines.find? fun l => l.newNumber = some n

/-- the kind of the line with a given number in the new file, a default when the diff does not show it -/
def kindAt (d : FileDiff) (n : Int) (default : LineKind) : LineKind := ((d.lineAt? n).map (·.kind)).getD default

/-- the kind of a line of the new file; what the diff does not show is unchanged -/
def kindOf (d : FileDiff) (n : Int) : LineKind := d.kindAt n .unchanged

/-- the first line that has a number on either side -/
def touching? (d : FileDiff) (n : Int) : Option DiffLine := d.lines.find? fun l => l.touches n

def numbers (d : FileDiff) : List Int := d.lines.flatMap fun l => l.oldNumber.toList ++ l.newNumber.toList

end FileDiff

end ChangeLint
