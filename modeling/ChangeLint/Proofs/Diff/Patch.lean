/-
What version control prints of a change, line by line.

A script of steps turns an old file into a new one. A `Hunk` is a run of its steps, printed as a `Block`: a header with
the start and the count of both sides, then the lines with their prefixes. A `Top` is what stands before the blocks of
one file: the title with both paths, extended header lines, the two lines of a rename, and two marker lines if a block
follows. A `Patch` is one file of a diff: two files, a script between them and hunks cut out of it.

An empty side starts at the line before it. The count 1 is not printed. A name with a space is followed by a tab in a
marker line.
-/
import ChangeLint.Diff.Basic
import ChangeLint.Diff.Header
import ChangeLint.Proofs.Diff.PathQuoting

namespace ChangeLint.Diff

/-! ## Scripts -/

/-- what happens to a line on the way from the old file to the new one -/
inductive Step
  | keep (line : List Char)
  | delete (line : List Char)
  | insert (line : List Char)
deriving DecidableEq, Repr

namespace Step

/-- the line of the old file that a step takes -/
def old? : Step → Option (List Char)
  | .keep l => some l
  | .delete l => some l
  | .insert _ => none

/-- the line of the new file that a step gives -/
def new? : Step → Option (List Char)
  | .keep l => some l
  | .delete _ => none
  | .insert l => some l

/-- a step as a line of a hunk -/
def printed : Step → List Char
  | .keep l => ' ' :: l
  | .delete l => '-' :: l
  | .insert l => '+' :: l

end Step

/-- the old file of a script -/
def oldSide (script : List Step) : List (List Char) := script.filterMap Step.old?

/-- the new file of a script -/
def newSide (script : List Step) : List (List Char) := script.filterMap Step.new?

/-- the number in the old file of the line that a step takes: one more than the lines that were taken before it -/
def oldNumber (script : List Step) (i : Nat) : Nat := (oldSide (script.take i)).length + 1

/-- the number in the new file of the line that a step gives -/
def newNumber (script : List Step) (i : Nat) : Nat := (newSide (script.take i)).length + 1

/-! ## Blocks -/

/-- a hunk as it is printed -/
structure Block where
  oldStart : Nat
  oldCount : Nat
  newStart : Nat
  newCount : Nat
  heading : List Char
  body : List (List Char)
deriving DecidableEq, Repr

namespace Block

/-- start and count of one side -/
def range (start count : Nat) : List Char :=
  Nat.toDigits 10 start ++ if count = 1 then [] else ',' :: Nat.toDigits 10 count

def header (b : Block) : List Char :=
  "@@ -".toList ++ (range b.oldStart b.oldCount ++ (" +".toList ++ (range b.newStart b.newCount ++
    (" @@".toList ++ b.heading))))

def lines (b : Block) : List (List Char) := b.header :: b.body

end Block

/-- the prefixes of the lines of a block; the last one is that of a remark on the line before it -/
def bodyPrefixes : List Char := [' ', '+', '-', '\\']

/-- blocks as version control prints them: one line each, with its prefix -/
structure Block.Printed (b : Block) : Prop where
  heading_line : '\n' ∉ b.heading
  body_line : ∀ l ∈ b.body, '\n' ∉ l
  body_prefix : ∀ l ∈ b.body, ∃ c ∈ bodyPrefixes, l.head? = some c

/-- printed blocks with starts that can be read, as all are where lines are counted in machine words: they have no more
digits than a number may have -/
structure Block.WellFormed (b : Block) : Prop extends b.Printed where
  oldStart_lt : b.oldStart < 10 ^ Number.digitLimit
  newStart_lt : b.newStart < 10 ^ Number.digitLimit

/-- a run of steps that is shown: the index of the first, their number, and what follows the header -/
structure Hunk where
  first : Nat
  size : Nat
  heading : List Char
deriving DecidableEq, Repr

namespace Hunk

def steps (script : List Step) (h : Hunk) : List Step := (script.drop h.first).take h.size

/-- the start of a side of which `before` lines come before it and `count` lines are shown -/
def start (before count : Nat) : Nat := if count = 0 then before else before + 1

def block (script : List Step) (h : Hunk) : Block where
  oldStart := start (oldSide (script.take h.first)).length (oldSide (h.steps script)).length
  oldCount := (oldSide (h.steps script)).length
  newStart := start (newSide (script.take h.first)).length (newSide (h.steps script)).length
  newCount := (newSide (h.steps script)).length
  heading := h.heading
  body := (h.steps script).map Step.printed

end Hunk

/-! ## Names and header lines -/

/-- which file a section is about, and what became of it as a whole -/
inductive Naming
  | modified (path : List Char)
  | added (path : List Char)
  | deleted (path : List Char)
  | renamed (old new : List Char)
deriving DecidableEq, Repr

namespace Naming

def old : Naming → List Char
  | .modified p => p
  | .added p => p
  | .deleted p => p
  | .renamed p _ => p

def new : Naming → List Char
  | .modified p => p
  | .added p => p
  | .deleted p => p
  | .renamed _ p => p

/-- false for an added file, which has no old name -/
def hasOld : Naming → Bool
  | .added _ => false
  | _ => true

/-- false for a deleted file, which has no new name -/
def hasNew : Naming → Bool
  | .deleted _ => false
  | _ => true

end Naming

/-- the line that opens a section -/
def title (old new : List Char) : List Char :=
  "diff --git ".toList ++ (nameText ('a' :: '/' :: old) ++ ' ' :: nameText ('b' :: '/' :: new))

/-- the name in a marker line -/
def markerName (side : Char) (path : List Char) : List Char :=
  let name := nameText (side :: '/' :: path)
  if ' ' ∈ name then name ++ ['\t'] else name

/-- beginnings that tell an extended header line from the other lines of a section -/
def lineMarks : List (List Char) :=
  [sectionMark, hunkMark, "--- ".toList, "+++ ".toList, "rename from ".toList, "rename to ".toList]

/-- an extended header line that names no path: a mode, an index, a similarity -/
structure IsPlain (l : List Char) : Prop where
  nonempty : l ≠ []
  line : '\n' ∉ l
  unmarked : ∀ m ∈ lineMarks, ¬ m <+: l

instance (l : List Char) : Decidable (IsPlain l) :=
  decidable_of_iff (l ≠ [] ∧ '\n' ∉ l ∧ ∀ m ∈ lineMarks, ¬ m <+: l)
    ⟨fun ⟨h1, h2, h3⟩ => ⟨h1, h2, h3⟩, fun ⟨h1, h2, h3⟩ => ⟨h1, h2, h3⟩⟩

/-- the part of a section before its blocks: extended lines stand before and after those of a rename -/
structure Top where
  naming : Naming
  before : List (List Char)
  after : List (List Char)
  old_ne : naming.old ≠ []
  new_ne : naming.new ≠ []
  plain : ∀ l ∈ before ++ after, IsPlain l

namespace Top

def title (t : Top) : List Char := Diff.title t.naming.old t.naming.new

/-- the lines of a rename -/
def renameLines (t : Top) : List (List Char) :=
  match t.naming with
  | .renamed old new => ["rename from ".toList ++ nameText old, "rename to ".toList ++ nameText new]
  | _ => []

/-- the marker lines -/
def markerLines (t : Top) : List (List Char) :=
  ["--- ".toList ++ (if t.naming.hasOld then markerName 'a' t.naming.old else nullPath),
    "+++ ".toList ++ (if t.naming.hasNew then markerName 'b' t.naming.new else nullPath)]

/-- the lines between the title and the blocks -/
def headerLines (t : Top) (blocks : List Block) : List (List Char) :=
  t.before ++ t.renameLines ++ t.after ++ if blocks = [] then [] else t.markerLines

/-- the lines of a section -/
def lines (t : Top) (blocks : List Block) : List (List Char) :=
  t.title :: (t.headerLines blocks ++ blocks.flatMap Block.lines)

end Top

/-! ## Patches -/

/-- one file of a diff: a script between two files, and hunks cut out of it in order and disjoint -/
structure Patch where
  top : Top
  old : List (List Char)
  new : List (List Char)
  script : List Step
  hunks : List Hunk
  old_eq : oldSide script = old
  new_eq : newSide script = new
  ordered : hunks.Pairwise fun g h => g.first + g.size ≤ h.first
  within : ∀ h ∈ hunks, h.first + h.size ≤ script.length
  old_lines : ∀ l ∈ old, '\n' ∉ l
  new_lines : ∀ l ∈ new, '\n' ∉ l
  heading_lines : ∀ h ∈ hunks, '\n' ∉ h.heading

namespace Patch

def blocks (p : Patch) : List Block := p.hunks.map (Hunk.block p.script)

def lines (p : Patch) : List (List Char) := p.top.lines p.blocks

end Patch

/-- lines as one text, each ended by a break -/
def textOf (ls : List (List Char)) : String := String.ofList (ls.flatMap fun l => l ++ ['\n'])

end ChangeLint.Diff
