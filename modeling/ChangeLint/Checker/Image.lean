/-
The image checker: warns of files whose name ends in one of the extensions of an unwanted image format, upper and lower
case being the same.
-/
import ChangeLint.Checker.Basic
import ChangeLint.Text.Case

namespace ChangeLint.Checker.Image

def source : Source := ⟨"ImageChecker", "Rules for graphic files stored in the project"⟩

/-- true when a path ends in one of the extensions -/
def matchesExtension (extensions : List String) (path : String) : Bool :=
  extensions.any fun e => (Text.lower e).toList.isSuffixOf (Text.lower path).toList

def finding (path : String) : Finding :=
  .file path "Consider a format other than JPEG for this image" source .warning

/-- the findings of a change set: one for each change that leaves a file with such a name -/
def findings (extensions : List String) (changes : ChangeSet) : List Finding :=
  (changes.currentPaths.filter (matchesExtension extensions)).map finding

def checker (extensions : List String) : Checker Snapshot :=
  ⟨"ImageChecker", fun s => .now (pure (findings extensions s.changes))⟩

end ChangeLint.Checker.Image
