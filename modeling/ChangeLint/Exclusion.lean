/-
Exclusion: paths that are left out of an analysis. An entry that holds a slash excludes the paths that begin with it, any
other entry the paths that have it as a component; an entry equal to a path excludes it, and an empty one nothing.
-/
import ChangeLint.Path
import ChangeLint.Act

namespace ChangeLint.Exclusion

/-- true when one entry excludes a path -/
def excludes (path entry : String) : Bool :=
  entry != "" && (entry == path ||
    (if entry.toList.contains '/' then entry.toList.isPrefixOf path.toList else (Path.parts path).contains entry))

def isExcluded (entries : List String) (path : String) : Bool := entries.any (excludes path)

def kept (entries paths : List String) : List String := paths.filter fun p => !isExcluded entries p

/-- what is noted of the excluded paths -/
def log (entries paths : List String) : List Entry :=
  (paths.filter (isExcluded entries)).map fun p => ⟨.debug, "Excluded from analysis: " ++ p⟩

/-- `kept` with its log -/
def apply (entries paths : List String) : Act (List String) := do
  Act.notes (log entries paths)
  pure (kept entries paths)

end ChangeLint.Exclusion
