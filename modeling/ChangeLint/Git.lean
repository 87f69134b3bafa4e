/-
Reading changes from a git repository. Every reader runs one or two commands and frames their output: lists of changed
paths, and the diff of one path. In a build job the branches are known by the name of a remote, which is put before them.
-/
import ChangeLint.Change.Status
import ChangeLint.Command.Basic
import ChangeLint.Framing
import ChangeLint.Text.Blank

namespace ChangeLint

/-- a repository: its directory, and what stands before the names of branches -/
structure Repository where
  directory : String
  remote : String
deriving DecidableEq, Repr

/-- the name of the remote in a build job -/
def Repository.jobRemote : String := "origin/"

namespace Git

/-- the command, with paths not quoted for characters beyond ASCII -/
def git : List String := ["git", "-c", "core.quotePath=false"]

/-- what a source branch has changed since it left a target branch -/
def range (r : Repository) (target source : String) : String := r.remote ++ target ++ "..." ++ r.remote ++ source

/-- the command for the name of the checked-out branch -/
def branchCommand : List String := ["git", "branch", "--show-current"]

def branchStatusCommand (r : Repository) (target source : String) : List String :=
  git ++ ["diff", "--name-status", "-z", range r target source]

def stagedStatusCommand : List String := git ++ ["diff", "--name-status", "-z", "--cached"]

def branchDiffCommand (r : Repository) (target source path : String) : List String :=
  git ++ ["diff", range r target source, "--", path]

def stagedDiffCommand (path : String) : List String := git ++ ["diff", "--cached", "--", path]

/-- a failed command is why the branch is unknown -/
def branchFailure (r : Repository) : Failure → Failure
  | .fault (.commandFailed _ reason _ _) => .fault (.branchUnknown r.directory reason)
  | f => f

/-- the name of the checked-out branch; there is none when the head is detached -/
def currentBranch (c : Commands) (r : Repository) : Act String := do
  let output ← (c.run branchCommand).handle fun f => Act.fail (branchFailure r f)
  let branch := Text.stripped output
  if branch = "" then Act.faulty (.branchUnknown r.directory Fault.nothingPrinted) else pure branch

/-- runs a command for changed paths and frames what it prints -/
def status (c : Commands) (command : List String) : Act String := do
  let raw ← c.run command
  Act.notes (Status.frameLog raw)
  pure (Status.frame raw)

def branchStatus (c : Commands) (r : Repository) (target source : String) : Act String :=
  status c (branchStatusCommand r target source)

def stagedStatus (c : Commands) : Act String := status c stagedStatusCommand

/-- what is staged of a path -/
def stagedDiff (c : Commands) (path : String) : Act String := do
  let raw ← c.run (stagedDiffCommand path)
  pure (Framing.frameLines raw)

/-- what a branch has changed in a path, or what is staged of it if the branch has changed nothing -/
def branchDiff (c : Commands) (r : Repository) (target source path : String) : Act String := do
  let raw ← c.run (branchDiffCommand r target source path)
  if Text.isAllBlank raw then stagedDiff c path else pure (Framing.frameLines raw)

end Git

end ChangeLint
