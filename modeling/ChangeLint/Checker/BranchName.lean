/-
The branch-name checker: refuses source branches with Cyrillic letters, which look like Latin ones.
-/
import ChangeLint.Checker.Basic

namespace ChangeLint.Checker.BranchName

def source : Source := ⟨"MergeRequestChecker", "Rules for merge request naming"⟩

/-- the characters of the Cyrillic block -/
def isCyrillic (c : Char) : Bool := 0x400 ≤ c.toNat && c.toNat < 0x500

def findings (m : MergeRequest) : List Finding :=
  if m.sourceBranch.toList.any isCyrillic then
    [.mergeRequest "Branch name must not contain Cyrillic characters" source .error]
  else []

def checker : Checker MergeRequest := ⟨"MergeRequestChecker", fun m => .now (pure (findings m))⟩

end ChangeLint.Checker.BranchName
