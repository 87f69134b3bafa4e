/-
The analysis of a project: collect the changes and their diffs, run the checkers on them, and keep the findings that lie in
the diff. `ofCheckout` analyses the branch that is checked out, `ofMergeRequest` a merge request in a build job.
-/
import ChangeLint.Checker.BranchName
import ChangeLint.Checker.Documentation
import ChangeLint.Checker.Formatter
import ChangeLint.Checker.Image
import ChangeLint.Diff.Parse
import ChangeLint.Exclusion
import ChangeLint.Finding.Relevance
import ChangeLint.Git
import ChangeLint.Run
import ChangeLint.Settings.Basic

namespace ChangeLint.Analysis

/-- what is compared: two branches, and which of their changes count -/
structure Comparison where
  target : String
  source : String
  diffSource : DiffSource
deriving DecidableEq, Repr

/-- the checkers of diffs that settings ask for -/
def diffCheckers [Interpreter] (s : Settings) (directory : String) (files : Files) (c : Commands) :
    Except Failure (List (Checker Snapshot)) := do
  let formatter ←
    if s.formatterEnabled then do
      let f ← Checker.Formatter.build (.text s.formatterCommand) s.formatterExtensions s.formatterExclude s.formatterPattern
      pure [f.checker c]
    else pure []
  let documentation :=
    if s.enableDocumentation then
      [Checker.Documentation.checker ⟨Path.normal directory, files, s.documentationExtensions⟩]
    else []
  pure (Checker.Image.checker s.imageExtensions :: documentation ++ formatter)

def mergeRequestCheckers : List (Checker MergeRequest) := [Checker.BranchName.checker]

/-- the lists of changed paths that a comparison reads, what is staged first -/
def statuses (c : Commands) (r : Repository) (k : Comparison) : Act (List String) := do
  let staged ← if k.diffSource = .branch then pure [] else do
    let s ← Git.stagedStatus c
    pure [s]
  let branch ← if k.diffSource = .staged then pure [] else do
    let s ← Git.branchStatus c r k.target k.source
    pure [s]
  pure (staged ++ branch)

def changes (c : Commands) (r : Repository) (k : Comparison) : Act ChangeSet := do
  let texts ← statuses c r k
  Act.notes (texts.flatMap Status.skippedLog)
  let changes := Status.resolveAll texts
  Act.note .debug s!"Resolved {changes.size} changed file(s)"
  pure changes

/-- the diff of one path, framed -/
def framedDiff (c : Commands) (r : Repository) (k : Comparison) (path : String) : Act String :=
  if k.diffSource = .staged then Git.stagedDiff c path else Git.branchDiff c r k.target k.source path

def diff (c : Commands) (r : Repository) (k : Comparison) (path : String) : Act (List FileDiff) :=
  framedDiff c r k path >>= Diff.read

/-- the diffs of all changed paths that are not excluded -/
def diffs (c : Commands) (r : Repository) (k : Comparison) (excludes : List String) (changes : ChangeSet) :
    Act (List FileDiff) := do
  let paths ← Exclusion.apply excludes changes.diffablePaths
  let found ← Act.each (diff c r k) paths
  pure found.flatten

/-- the relevant findings of a comparison -/
def findings (c : Commands) (r : Repository) (k : Comparison) (checkers : List (Checker Snapshot))
    (excludes : List String) : Act (List Finding) := do
  let changed ← changes c r k
  let ds ← diffs c r k excludes changed
  let found ← (Run.diffCheckers none checkers ⟨changed, ds⟩).act
  Relevance.filter ds found

/-- the line of the log for a finding that has a place -/
def issueLine [Interpreter] : Finding → Except Failure (Option String)
  | .mergeRequest _ _ _ => .ok none
  | f => do
    let location ← f.location
    let place ← Finding.written location
    let text ← Finding.written f.text
    pure (some ("\t" ++ place.plain ++ ": message: " ++ text.plain))

/-- what is logged of findings, if there are any -/
def issues [Interpreter] (fs : List Finding) : Except Failure (List Entry) :=
  if fs.isEmpty then .ok []
  else (fs.mapM issueLine).map fun ls => [⟨.info, "\n".intercalate ("Found issues:" :: ls.filterMap id)⟩]

/-- the findings on the branch that is checked out -/
def ofCheckout [Interpreter] (c : Commands) (s : Settings) (directory : String) (checkers : List (Checker Snapshot)) :
    Act (List Finding) := do
  let r : Repository := ⟨Path.normal directory, ""⟩
  let source ← Git.currentBranch c r
  Act.note .info ("Analyzing " ++ source ++ " against " ++ s.targetBranch)
  let fs ← findings c r ⟨s.targetBranch, source, s.diffSource⟩ checkers s.excludePaths
  let entries ← Act.ofExcept (issues fs)
  Act.notes entries
  pure fs

/-- the findings on a merge request: those on the request itself, then those on its diff -/
def ofMergeRequest (c : Commands) (s : Settings) (directory : String) (m : MergeRequest)
    (checkers : List (Checker Snapshot)) (requestCheckers : List (Checker MergeRequest)) : Act (List Finding) := do
  let first ← (Run.mergeRequestCheckers none requestCheckers m).act
  Act.note .info ("Analyzing merge request " ++ m.sourceBranch ++ " -> " ++ m.targetBranch)
  let r : Repository := ⟨Path.normal directory, Repository.jobRemote⟩
  let fs ← findings c r ⟨m.targetBranch, m.sourceBranch, s.diffSource⟩ checkers s.excludePaths
  pure (first ++ fs)

end ChangeLint.Analysis
