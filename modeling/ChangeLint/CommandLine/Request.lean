/-
Requests: what a command line asks for. `Request.read` reads one, and refuses words that are none; it looks at the paths
that are named, which have to be there.
-/
import ChangeLint.CommandLine.Flag
import ChangeLint.Content
import ChangeLint.Failure
import ChangeLint.Path

namespace ChangeLint.CommandLine

/-- how findings are to be shown, and how much is to be logged -/
structure Manner where
  format : String
  verbose : Bool
  quiet : Bool
deriving DecidableEq, Repr

structure CheckRequest where
  directory : String
  target : Option String
  diffSource : Option String
  excludes : List String
  settingsFile : Option String
  manner : Manner
  send : Bool
deriving DecidableEq, Repr

/-- a request to check a merge request in a build job -/
structure JobRequest where
  directory : String
  source : String
  target : String
  diffSource : Option String
  settingsFile : Option String
  manner : Manner
deriving DecidableEq, Repr

/-- a request to wait for findings and show them -/
structure WaitRequest where
  host : Option String
  port : Option Int
  manner : Manner
deriving DecidableEq, Repr

/-- what a command line asks for -/
inductive Request
  | version
  | help
  | check (r : CheckRequest)
  | job (r : JobRequest)
  | wait (r : WaitRequest)
deriving DecidableEq, Repr

/-- why a command line asks for nothing: it is used wrongly, or a look at a path failed -/
inductive Refusal
  | usage (u : Usage)
  | failure (f : Failure)
deriving Repr

namespace Request

def helpFlag : Flag := ⟨"help", ["--help"], false⟩

def commonFlags : List Flag := [⟨"version", ["--version"], false⟩, helpFlag]

/-- the flags that all checks have: which changes count, where settings are, how findings are shown and what is logged -/
def checkingFlags : List Flag :=
  [⟨"diff-source", ["--diff-source", "-s"], true⟩, ⟨"config", ["--config", "-c"], true⟩,
   ⟨"format", ["--format", "-f"], true⟩, ⟨"verbose", ["--verbose", "-v"], false⟩,
   ⟨"quiet", ["--quiet", "-q"], false⟩]

def checkFlags : List Flag :=
  [⟨"target", ["--target", "-t"], true⟩, ⟨"exclude", ["--exclude", "-x"], true⟩, ⟨"send", ["--send"], false⟩]
    ++ checkingFlags ++ [helpFlag]

/-- the flags of a check of a merge request -/
def jobFlags : List Flag :=
  [⟨"source-branch", ["--source-branch"], true⟩, ⟨"target-branch", ["--target-branch"], true⟩,
   ⟨"title", ["--title"], true⟩, ⟨"iid", ["--iid"], true⟩] ++ checkingFlags ++ [helpFlag]

def waitFlags : List Flag :=
  [⟨"host", ["--host"], true⟩, ⟨"port", ["--port", "-p"], true⟩, ⟨"format", ["--format", "-f"], true⟩,
   ⟨"verbose", ["--verbose", "-v"], false⟩, helpFlag]

/-- refuses words as wrong usage -/
def misused {α : Type} (u : Usage) : Except Refusal α := .error (.usage u)

def checkPath (path : String) : Except Refusal Unit :=
  if path.toList.contains '\x00' then .error (.failure .nulInPath) else .ok ()

def directory (files : Files) (path : String) : Except Refusal String := do
  checkPath path
  match path, files path with
  | "", _ => misused (.badValue "PATH" path)
  | _, .problem .isADirectory => pure (Path.normal path)
  | _, _ => misused (.badValue "PATH" path)

/-- true of paths that can only lead to a directory -/
def namesDirectory (path : String) : Bool := ["", "."].contains (String.ofList ((Text.pieces '/' path.toList).getLastD []))

/-- a file that is there and can be read -/
def file (files : Files) (path : String) : Except Refusal String := do
  checkPath path
  match files path with
  | .bytes _ => if namesDirectory path then misused (.badValue "--config" path) else pure (Path.normal path)
  | .problem _ => misused (.badValue "--config" path)

def integer (key : String) : Option String → Except Refusal (Option Int)
  | none => .ok none
  | some text =>
    match Number.readInt text with
    | .ok n => .ok (some n)
    | .error _ => misused (.badValue key text)

/-- the only word of a list that may be empty -/
def atMostOne : List String → Except Refusal (Option String)
  | [] => .ok none
  | [w] => .ok (some w)
  | _ :: w :: _ => misused (.needlessWord w)

/-- the value of a flag that must be given -/
def required (r : Reading) (key : String) : Except Refusal String :=
  match r.value? key with
  | none => misused (.missingFlag key)
  | some v => .ok v

def manner (r : Reading) (format : String) : Manner := ⟨(r.value? "format").getD format, r.has "verbose", r.has "quiet"⟩

/-- words after a command as flags and other words -/
def readFlags (flags : List Flag) (anywhere : Bool) (words : List String) : Except Refusal Reading :=
  (Flag.read flags anywhere words.length words).mapError .usage

def readCheck (files : Files) (r : Reading) : Except Refusal Request := do
  let path ← atMostOne r.words
  let directory ← directory files (path.getD ".")
  let settingsFile ← (r.value? "config").mapM (file files)
  pure (.check {
    directory, settingsFile
    target := r.value? "target"
    diffSource := r.value? "diff-source"
    excludes := r.values "exclude"
    manner := manner r "rich"
    send := r.has "send" })

/-- the request of a check of a merge request -/
def readJob (files : Files) (r : Reading) : Except Refusal Request := do
  let path ← atMostOne r.words
  let source ← required r "source-branch"
  let target ← required r "target-branch"
  let _ ← integer "iid" (r.value? "iid")
  let directory ← directory files (path.getD ".")
  let settingsFile ← (r.value? "config").mapM (file files)
  pure (.job {
    directory, source, target, settingsFile
    diffSource := r.value? "diff-source"
    manner := manner r "github" })

def readWait (r : Reading) : Except Refusal Request := do
  match r.words with
  | [] =>
    let port ← integer "port" (r.value? "port")
    match port with
    | none => pure (.wait ⟨r.value? "host", none, manner r "rich"⟩)
    | some n =>
      if 0 < n && n < 65536 then pure (.wait ⟨r.value? "host", some n, manner r "rich"⟩)
      else misused (.badValue "port" (Number.showInt n))
  | w :: _ => misused (.needlessWord w)

def readCommand (files : Files) (name : String) (words : List String) : Except Refusal Request := do
  let helped (flags : List Flag) (next : Reading → Except Refusal Request) : Except Refusal Request := do
    let r ← readFlags flags true words
    if r.has "help" then pure .help else next r
  match name with
  | "check" => helped checkFlags (readCheck files)
  | "ci" => helped jobFlags (readJob files)
  | "receive" => helped waitFlags readWait
  | name => misused (.unknownCommand name)

def read (files : Files) (words : List String) : Except Refusal Request := do
  let r ← readFlags commonFlags false words
  match r.given.head?, r.words with
  | some g, _ => pure (if g.key = "version" then .version else .help)
  | none, [] => misused .missingCommand
  | none, name :: rest => readCommand files name rest

end Request

end ChangeLint.CommandLine
