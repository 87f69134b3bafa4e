/-
The documentation checker: reads the scripts of a diff and reports what they leave undocumented on lines that the diff
tells of. A script that cannot be read is passed over with a warning.
-/
import ChangeLint.Checker.Basic
import ChangeLint.Content
import ChangeLint.Path
import ChangeLint.Script.Documentation

namespace ChangeLint.Checker

/-- what the documentation checker works with: the directory of the project, the files there, and the endings of names of
scripts -/
structure Documentation where
  directory : String
  files : Files
  extensions : List String

namespace Documentation

variable [Interpreter]

def source : Source := ⟨.text "Documentation", .text "Community rules for documenting public code"⟩

/-- the endings of names of scripts, unless others are asked for -/
def defaultExtensions : List String := [".py"]

/-- a script with a warning when it cannot be read -/
def unreadable (path reason : String) : Act (Option (List Char)) := do
  Act.note .warning ("Cannot read " ++ path ++ ": " ++ reason)
  pure none

/-- the text of a script, every end of line being one character -/
def readScript (c : Documentation) (name : String) : Act (Option (List Char)) :=
  let path := Path.join c.directory name
  if path.toList.contains '\x00' then Act.fail .nulInPath
  else match c.files path with
    | .problem p => unreadable path (p.message path)
    | .bytes b =>
      match Text.Utf8.decode b with
      | .error e => unreadable path e.message
      | .ok cs => pure (some (Text.plainLines cs))

/-- the finding for a remark, if the diff tells of its line -/
def finding? (d : FileDiff) (r : Script.Remark) : Option Finding :=
  (d.touching? r.1).map fun l => .line d.newPath (.int r.1) l.kind r.2 source .error

def checkScript (d : FileDiff) (text : List Char) : Act (List Finding) :=
  match Script.undocumented text with
  | .error .malformed => do
    Act.note .warning ("Cannot parse " ++ d.newPath)
    pure []
  | .error r => Act.fail (.script r)
  | .ok remarks => pure (remarks.filterMap (finding? d))

def checkFile (c : Documentation) (d : FileDiff) : Act (List Finding) := do
  match ← c.readScript d.newPath with
  | none => pure []
  | some text => checkScript d text

/-- the findings on all scripts of a diff -/
def check (c : Documentation) (diffs : List FileDiff) : Act (List Finding) := do
  let found ← Act.each c.checkFile (diffs.filter fun d => c.extensions.contains (Path.suffix d.newPath))
  pure found.flatten

def checker (c : Documentation) : Checker Snapshot := ⟨"Documentation", fun s => .now (c.check s.diffs)⟩

end Documentation

end ChangeLint.Checker
