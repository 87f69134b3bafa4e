/-
Checkers. A checker has a name and, given what it looks at, an attempt: the time it takes and what it then does. A diff
checker looks at a `Snapshot` of changes and diffs, a merge-request checker at the request alone.

Time is exact and starts at zero with the run.
-/
import ChangeLint.Change.Basic
import ChangeLint.Finding.Basic
import ChangeLint.Act

namespace ChangeLint

/-- a merge request as a platform describes it -/
structure MergeRequest where
  sourceBranch : String
  targetBranch : String
deriving DecidableEq, Repr

/-- what all diff checkers of a run look at -/
structure Snapshot where
  changes : ChangeSet
  diffs : List FileDiff
deriving DecidableEq, Repr

/-- one attempt at checking: when it is due and what it does then; it may end without a list of findings -/
structure Attempt where
  delay : Rat
  act : Act (Option (List Finding))

/-- a checker of things of a type; its name is a text unless its source is titled otherwise -/
structure Checker (ι : Type) where
  name : Datum
  attempt : ι → Attempt

namespace Attempt

/-- an attempt that is due at once and returns findings -/
def now (act : Act (List Finding)) : Attempt := ⟨0, act >>= fun fs => pure (some fs)⟩

end Attempt

/-- what a checker does, without its delay; a result that is no list counts as empty -/
def Checker.run {ι : Type} (c : Checker ι) (input : ι) : Act (List Finding) :=
  (c.attempt input).act >>= fun r => pure (r.getD [])

end ChangeLint
