/-
The formatter checker: runs a linter on every file of a diff that it is meant for and reads its output line by line. A
pattern with groups `line` and `message` says which lines are findings and where their parts are.
-/
import ChangeLint.Checker.Basic
import ChangeLint.Command.Basic
import ChangeLint.Command.Words
import ChangeLint.Checker.Pattern
import ChangeLint.Path
import ChangeLint.Pattern.Match

namespace ChangeLint.Checker

/-- a linter: the command, the suffixes and the names of the files that it reads and skips, and how its output reads -/
structure Formatter where
  argv : List String
  extensions : List String
  excluded : List String
  pattern : Pattern

namespace Formatter

def source : Source := ⟨"Formatter", "Rules from the formatter configuration in the root of the project"⟩

/-- a command line as a text to be split or as words -/
inductive CommandLine
  | text (s : String)
  | words (ws : List String)
deriving DecidableEq, Repr

def CommandLine.argv : CommandLine → Except Failure (List String)
  | .words ws => .ok ws
  | .text s => (Command.words s).mapError .words

section

variable [Interpreter]

/-- a pattern from its text; it must have the groups that findings are made of -/
def readPattern (text : String) : Except Failure Pattern := do
  let p ← (Pattern.read text.toList).mapError (.pattern text)
  if isUsable p then pure p else throw .missingGroups

def build (command : CommandLine) (extensions excluded : List String) (pattern : String) : Except Failure Formatter := do
  let argv ← command.argv
  let p ← readPattern pattern
  pure ⟨argv, extensions, excluded, p⟩

end

/-- true of the files that the linter is run on -/
def wants (f : Formatter) (path : String) : Bool :=
  f.extensions.contains (Path.suffix path) && !f.excluded.contains (Path.name path)

def lineNumber : Option (List Char) → Except Failure Int
  | none => .error (.misuse (.noNumber Datum.null.kindName))
  | some cs => (Number.readInt (String.ofList cs)).mapError .notANumber

/-- a captured message, without the full stops at its end -/
def message : Option (List Char) → Except Failure String
  | none => .error (.misuse (.noStrip Datum.null.kindName))
  | some cs => .ok (String.ofList (Text.trimEnd (· = '.') cs))

/-- the finding that a line of output tells of, none when the pattern does not match it -/
def finding? (f : Formatter) (d : FileDiff) (text : String) : Except Failure (Option Finding) :=
  match f.pattern.search? text.toList with
  | none => .ok none
  | some m => do
    let n ← lineNumber (f.pattern.named? m "line")
    let text ← message (f.pattern.named? m "message")
    pure (some (.line d.newPath (.int n) (d.kindOf n) text source .error))

/-- the findings that lines of output tell of -/
def findings (f : Formatter) (d : FileDiff) (output : List String) : Except Failure (List Finding) := do
  let found ← output.mapM (f.finding? d)
  pure (found.filterMap id)

def checkFile (f : Formatter) (c : Commands) (d : FileDiff) : Act (List Finding) := do
  let output ← c.stream (f.argv ++ [d.newPath])
  let fs ← Act.ofExcept (f.findings d output)
  Act.note .debug (d.newPath ++ s!": {fs.length} formatter finding(s)")
  pure fs

/-- runs the linter on every file of a diff that it is meant for -/
def check (f : Formatter) (c : Commands) (diffs : List FileDiff) : Act (List Finding) := do
  let found ← Act.each (f.checkFile c) (diffs.filter fun d => f.wants d.newPath)
  pure found.flatten

def checker (f : Formatter) (c : Commands) : Checker Snapshot :=
  ⟨"Formatter", fun s => .now (f.check c s.diffs)⟩

end Formatter

end ChangeLint.Checker
