/-
Loading settings. Sources come in increasing priority: a file in the home directory, a file in the working directory, a
file that is named explicitly, the environment, and what the caller overrides. Each source defines some settings, and a
later one wins.

A file may hold the settings at its top or in a table of their own.
-/
import ChangeLint.Content
import ChangeLint.Settings.Basic
import ChangeLint.Toml.Document

namespace ChangeLint.Settings

variable [Interpreter]

/-- a file of settings: the path by which it is known, and what is found there -/
structure Source where
  path : String
  content : Content
deriving Repr

/-- where settings come from; what is overridden is overridden by whole texts -/
structure Sources where
  home : Source
  project : Source
  explicit : Option Source
  environment : List (String × String)
  overrides : List (String × Datum)
  whole : ∀ m ∈ overrides, m.2.isWhole = true
deriving Repr

def fileName : String := ".code-styler.toml"

/-- the table of a file that holds the settings -/
def tableName : String := "code-styler"

/-- what the names of environment variables begin with -/
def variableStart : String := "CODE_STYLER_"

/-- members with others set over them -/
def update (old new : List (String × Datum)) : List (String × Datum) :=
  new.foldl (fun ms m => Datum.put ms m.1 m.2) old

/-- the settings in a document: those in its table for them, if it has one, else all members -/
def ofDocument (members : List (String × Datum)) : List (String × Datum) :=
  match Datum.get? tableName members with
  | some (.table t) => t
  | _ => members

def ofBytes (path : String) (bytes : List UInt8) : Except Failure (List (String × Datum)) :=
  match Text.Utf8.decode bytes with
  | .error e => .error (.notUtf8 e)
  | .ok cs =>
    let text := Toml.plainLines cs
    match Toml.read text with
    | .error (.malformed r n) =>
      .error (.fault (.fileRejected path ((Toml.Refusal.malformed r n).message text)))
    | .error (.tooLong e) => .error (.tooLong e)
    | .error (.tooDeep m) => .error (.exhausted m)
    | .ok members => .ok (ofDocument members)

def ofContent (s : Source) : Except Failure (List (String × Datum)) :=
  match s.content with
  | .bytes b => ofBytes s.path b
  | .problem p => .error (.fault (.fileRejected s.path (p.message s.path)))

/-- refuses to tell whether there is a file when its name is too long -/
def checkName (s : Source) : Except Failure Unit :=
  match s.content with
  | .problem .nameTooLong => .error (.unnamed (Content.Problem.nameTooLong.message s.path))
  | _ => .ok ()

/-- the settings in a file that may be missing -/
def ofOptional (s : Source) : Except Failure (List (String × Datum)) := do
  checkName s
  if s.content.isPresent then ofContent s else pure []

/-- the settings in a file that must be there -/
def ofExplicit : Option Source → Except Failure (List (String × Datum))
  | none => .ok []
  | some s => do
    checkName s
    if s.content.isPresent then ofContent s else throw (.fault (.fileRejected s.path "file not found"))

/-- the environment variable for a setting -/
def variableOf (name : String) : String := variableStart ++ String.ofList (name.toList.map Char.toUpper)

def ofEnvironment (environment : List (String × String)) : List Field → Except Failure (List (String × Datum))
  | [] => .ok []
  | f :: fs => do
    let found ← match environment.lookup (variableOf f.name) with
      | none => pure []
      | some text =>
        match f.shape.parse text with
        | .error e => reject f.name text (variableOf f.name ++ ": " ++ e.message)
        | .ok none => pure []
        | .ok (some d) => pure [(f.name, d)]
    let more ← ofEnvironment environment fs
    pure (found ++ more)

/-- true of data that count as yes: all but null, false, zero and what is empty -/
def isTruthy : Datum → Bool
  | .null => false
  | .bool b => b
  | .int n => n != 0
  | .real (.finite _ 0 _) => false
  | .real _ => true
  | .text s => s != ""
  | .moment _ => true
  | .list ds => !ds.isEmpty
  | .table ms => !ms.isEmpty
  | .broken _ => true
  | .brokenTable ms => !ms.isEmpty

/-- overrides with a switch replaced by the verbosity that it stands for -/
def applySwitch (name : String) (v : Verbosity) (overrides : List (String × Datum)) : List (String × Datum) :=
  match Datum.get? name overrides with
  | none => overrides
  | some d =>
    let rest := overrides.filter fun m => m.1 != name
    if isTruthy d then Datum.put rest "verbosity" v.word else rest

/-- the settings that a caller overrides: the switches stand for a verbosity, quiet before verbose, and null is ignored -/
def ofOverrides (overrides : List (String × Datum)) : List (String × Datum) :=
  (applySwitch "quiet" .quiet (applySwitch "verbose" .verbose overrides)).filter fun m =>
    match m.2 with
    | .null => false
    | _ => true

/-- the least of some names -/
def leastName : List String → Option String
  | [] => none
  | s :: ss => match leastName ss with
    | none => some s
    | some t => some (if t < s then t else s)

/-- settings from members that may have unknown names, the least of which is reported -/
def ofMerged (members : List (String × Datum)) : Except Failure Settings :=
  match leastName ((members.map (·.1)).filter fun n => !names.contains n) with
  | some n => reject n ((Datum.get? n members).getD .null) "unknown configuration key"
  | none => ofValues (valueIn members)

/-- the members that all sources together define -/
def merge (s : Sources) : Except Failure (List (String × Datum)) := do
  let home ← ofOptional s.home
  let project ← if s.project.path = s.home.path then pure [] else ofOptional s.project
  let explicit ← ofExplicit s.explicit
  let environment ← ofEnvironment s.environment fields
  pure (update (update (update (update home project) explicit) environment) (ofOverrides s.overrides))

/-- loads settings from their sources -/
def load (s : Sources) : Except Failure Settings := merge s >>= ofMerged

end ChangeLint.Settings
