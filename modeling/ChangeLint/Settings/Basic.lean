/-
Settings of a run. `Settings.ofMembers` makes them from raw values by name: every value must have the shape of its field,
and then the constraints hold that the fields have, one after another; the first that does not hold is reported.
-/
import ChangeLint.Checker.Pattern
import ChangeLint.Failure
import ChangeLint.Interpreter
import ChangeLint.Seconds
import ChangeLint.Settings.Shape

namespace ChangeLint

/-- which comparisons make up the changes: what is staged, what the branch brings, or both -/
inductive DiffSource
  | staged
  | branch
  | combined
deriving DecidableEq, Repr

def DiffSource.word : DiffSource → String
  | .staged => "staged"
  | .branch => "branch"
  | .combined => "combined"

def DiffSource.all : List DiffSource := [.staged, .branch, .combined]

def DiffSource.ofWord? (s : String) : Option DiffSource := DiffSource.all.find? fun x => x.word = s

/-- how much is logged -/
inductive Verbosity
  | quiet
  | normal
  | verbose
deriving DecidableEq, Repr

def Verbosity.word : Verbosity → String
  | .quiet => "quiet"
  | .normal => "normal"
  | .verbose => "verbose"

def Verbosity.all : List Verbosity := [.quiet, .normal, .verbose]

def Verbosity.ofWord? (s : String) : Option Verbosity := Verbosity.all.find? fun x => x.word = s

/-- the settings of a run -/
structure Settings where
  targetBranch : String
  diffSource : DiffSource
  excludePaths : List String
  imageExtensions : List String
  formatterCommand : String
  formatterExtensions : List String
  formatterExclude : List String
  formatterPattern : String
  enableDocumentation : Bool
  documentationExtensions : List String
  transportHost : String
  transportPort : Nat
  sendTimeout : Seconds
  verbosity : Verbosity
deriving Repr

namespace Settings

/-- a setting: its name, its shape and its value when none is given -/
structure Field where
  name : String
  shape : Shape
  default : Datum
deriving Repr

def texts (ss : List String) : Datum := .list (ss.map .text)

def fields : List Field :=
  [⟨"target_branch", .text, "master"⟩,
   ⟨"diff_source", .text, "combined"⟩,
   ⟨"exclude_paths", .texts, texts []⟩,
   ⟨"image_extensions", .texts, texts [".jpg", ".jpeg"]⟩,
   ⟨"formatter_command", .text, ""⟩,
   ⟨"formatter_extensions", .texts, texts [".py"]⟩,
   ⟨"formatter_exclude", .texts, texts []⟩,
   ⟨"formatter_pattern", .text, Checker.Formatter.defaultPattern⟩,
   ⟨"enable_documentation", .truth, .bool true⟩,
   ⟨"documentation_extensions", .texts, texts [".py"]⟩,
   ⟨"transport_host", .text, "127.0.0.1"⟩,
   ⟨"transport_port", .integer, .int 48123⟩,
   ⟨"send_timeout_seconds", .number, .real (Binary64.ofInt 10)⟩,
   ⟨"verbosity", .choice, "normal"⟩]

def names : List String := fields.map (·.name)

section

variable [Interpreter]

/-- refuses the value of a setting; a value that cannot be written out fails as such -/
def reject {α : Type} (key : String) (value : Datum) (reason : String) : Except Failure α :=
  match Interpreter.unwritten? .literal value with
  | some m => .error (.exhausted m)
  | none =>
    if value.hasLongInt then .error (.tooLong .writing) else .error (.fault (.valueRejected key value reason))

/-- refuses the value of a setting unless a condition holds -/
def demand (holds : Bool) (key : String) (value : Datum) (reason : String) : Except Failure Unit :=
  if holds then .ok () else reject key value reason

def textOf : Datum → String
  | .text s => s
  | _ => ""

def textsOf : Datum → List String
  | .list ds => ds.map textOf
  | _ => []

def truthOf : Datum → Bool
  | .bool b => b
  | _ => false

/-- the integer of a datum that is one -/
def intOf : Datum → Int
  | .int n => n
  | _ => 0

/-- the span of a datum that is a number -/
def secondsOf : Datum → Seconds
  | .int n => .whole n
  | .real x => .real x
  | _ => .whole 0

/-- every value has the shape of its field -/
def checkShapes (value : String → Datum) : List Field → Except Failure Unit
  | [] => .ok ()
  | f :: fs => do
    match f.shape.problem? (value f.name) with
    | some reason => reject f.name (value f.name) reason
    | none => checkShapes value fs

/-- every one of some suffixes begins with a point -/
def checkSuffixes (key : String) : List String → Except Failure Unit
  | [] => .ok ()
  | s :: ss => do
    demand (s.startsWith ".") key s "extensions must start with '.'"
    checkSuffixes key ss

/-- a pattern is one, and has the groups that it needs -/
def checkPattern (text : String) : Except Failure Unit :=
  match Pattern.read text.toList with
  | .error (.malformed r n) => reject "formatter_pattern" text ((Pattern.Refusal.malformed r n).message text.toList)
  | .error e => .error (.pattern text e)
  | .ok p => demand (Checker.Formatter.isUsable p) "formatter_pattern" text "needs 'line' and 'message' groups"

/-- settings from the raw value of every field -/
def ofValues (value : String → Datum) : Except Failure Settings := do
  checkShapes value fields
  let branch := textOf (value "target_branch")
  demand (!Text.isAllBlank branch) "target_branch" branch "must not be empty"
  let sourceWord := textOf (value "diff_source")
  let some source := DiffSource.ofWord? sourceWord
    | reject "diff_source" sourceWord ("must be one of " ++ ", ".intercalate (DiffSource.all.map DiffSource.word))
  let port := intOf (value "transport_port")
  demand (0 < port && port < 65536) "transport_port" (.int port) "must be in 1..65535"
  let timeout := secondsOf (value "send_timeout_seconds")
  demand (!timeout.isNegative) "send_timeout_seconds" timeout.datum "must be non-negative"
  let verbosityWord := textOf (value "verbosity")
  let some verbosity := Verbosity.ofWord? verbosityWord
    | reject "verbosity" verbosityWord "must be quiet, normal or verbose"
  for key in ["image_extensions", "formatter_extensions", "documentation_extensions"] do
    checkSuffixes key (textsOf (value key))
  let pattern := textOf (value "formatter_pattern")
  checkPattern pattern
  pure
    { targetBranch := branch
      diffSource := source
      excludePaths := textsOf (value "exclude_paths")
      imageExtensions := textsOf (value "image_extensions")
      formatterCommand := textOf (value "formatter_command")
      formatterExtensions := textsOf (value "formatter_extensions")
      formatterExclude := textsOf (value "formatter_exclude")
      formatterPattern := pattern
      enableDocumentation := truthOf (value "enable_documentation")
      documentationExtensions := textsOf (value "documentation_extensions")
      transportHost := textOf (value "transport_host")
      transportPort := port.toNat
      sendTimeout := timeout
      verbosity := verbosity }

/-- the value of a field among some members, or its default -/
def valueIn (members : List (String × Datum)) (name : String) : Datum :=
  match Datum.get? name members with
  | some d => d
  | none => ((fields.find? fun f => f.name = name).map Field.default).getD .null

/-- settings from members, whose names must all be known -/
def ofMembers (members : List (String × Datum)) : Except Failure Settings :=
  match members.find? fun m => !names.contains m.1 with
  | some m => .error (.unknownArgument "StylerConfig" m.1)
  | none => ofValues (valueIn members)

end

def members (s : Settings) : List (String × Datum) :=
  [("target_branch", s.targetBranch), ("diff_source", s.diffSource.word), ("exclude_paths", texts s.excludePaths),
   ("image_extensions", texts s.imageExtensions), ("formatter_command", s.formatterCommand),
   ("formatter_extensions", texts s.formatterExtensions), ("formatter_exclude", texts s.formatterExclude),
   ("formatter_pattern", s.formatterPattern), ("enable_documentation", .bool s.enableDocumentation),
   ("documentation_extensions", texts s.documentationExtensions), ("transport_host", s.transportHost),
   ("transport_port", .int s.transportPort), ("send_timeout_seconds", s.sendTimeout.datum),
   ("verbosity", s.verbosity.word)]

def literal (s : Settings) : String :=
  "StylerConfig(" ++ ", ".intercalate (s.members.map fun m => m.1 ++ "=" ++ m.2.literal) ++ ")"

/-- true when a linter is set -/
def formatterEnabled (s : Settings) : Bool := !Text.isAllBlank s.formatterCommand

end Settings

end ChangeLint
