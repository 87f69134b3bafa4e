/-
Relevance: checkers may look at whole files, but a line finding counts only when its line appears in the diff of its
file, as a line of the old or of the new file. Findings of any other scope always count.
-/
import ChangeLint.Finding.Basic
import ChangeLint.Act

namespace ChangeLint.Relevance

/-- the numbers of all lines in the diffs of a path -/
def numbersOf (diffs : List FileDiff) (path : String) : List Int :=
  (diffs.filter fun d => d.newPath = path).flatMap FileDiff.numbers

/-- the numbers of each path, in the order in which the paths first appear -/
def numbersByPath (diffs : List FileDiff) : List (String × List Int) :=
  (diffs.map (·.newPath)).eraseDups.map fun p => (p, numbersOf diffs p)

/-- the path of a finding as a key; a list or table cannot be one -/
def keyOf : Datum → Except Failure (Option String)
  | .text s => .ok (some s)
  | .list _ => .error (.misuse (.unhashable "list"))
  | .table _ | .brokenTable _ => .error (.misuse (.unhashable "dict"))
  | _ => .ok none

/-- true when a finding counts -/
def isRelevant (diffs : List FileDiff) (f : Finding) : Except Failure Bool :=
  match f with
  | .line path _ _ _ _ _ =>
    (keyOf path).map fun key =>
      match key.bind fun p => (numbersByPath diffs).lookup p, f.lineNumber? with
      | some numbers, some n => numbers.contains n
      | _, _ => false
  | _ => .ok true

/-- the findings that count, in their order -/
def kept (diffs : List FileDiff) : List Finding → Except Failure (List Finding)
  | [] => .ok []
  | f :: fs => do
    let keep ← isRelevant diffs f
    let rest ← kept diffs fs
    .ok (if keep then f :: rest else rest)

/-- `kept` with a note of how many findings do not count -/
def filter (diffs : List FileDiff) (fs : List Finding) : Act (List Finding) := do
  let ks ← Act.ofExcept (kept diffs fs)
  let dropped := fs.length - ks.length
  if dropped = 0 then pure ks
  else do
    Act.note .debug s!"Dropped {dropped} finding(s) outside the diff"
    pure ks

end ChangeLint.Relevance
