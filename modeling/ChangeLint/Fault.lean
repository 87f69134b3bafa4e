/-
Faults: the ways in which collecting changes, configuring a run and delivering findings go wrong that this library knows
and explains. Each fault is a cause; `message`, `details` and `hint` say it to a reader, and `render` joins the first two.

Faults form families: `Kind.parent?` leads from a kind to the family that holds it.
-/
import ChangeLint.Datum
import ChangeLint.Text.Blank

namespace ChangeLint

/-- kinds of faults: families and single causes -/
inductive Fault.Kind
  | any
  | analysis
  | commandFailed
  | branchUnknown
  | configuration
  | fileRejected
  | valueRejected
  | transport
  | unreachable
  | receive
  | undecodable
  | receiveCancelled
deriving DecidableEq, Repr

def Fault.Kind.parent? : Fault.Kind → Option Fault.Kind
  | .any => none
  | .analysis => some .any
  | .commandFailed => some .analysis
  | .branchUnknown => some .analysis
  | .configuration => some .any
  | .fileRejected => some .configuration
  | .valueRejected => some .configuration
  | .transport => some .any
  | .unreachable => some .transport
  | .receive => some .transport
  | .undecodable => some .receive
  | .receiveCancelled => some .receive

/-- steps from a kind to the family of all faults -/
def Fault.Kind.depth : Fault.Kind → Nat
  | .any => 0
  | .analysis | .configuration | .transport => 1
  | .commandFailed | .branchUnknown | .fileRejected | .valueRejected | .unreachable | .receive => 2
  | .undecodable | .receiveCancelled => 3

/-- the families of a kind, the nearest first -/
def Fault.Kind.families (k : Fault.Kind) : List Fault.Kind :=
  match _h : k.parent? with
  | none => []
  | some p => p :: p.families
termination_by k.depth
decreasing_by cases k <;> simp_all [Fault.Kind.parent?, Fault.Kind.depth] <;> subst _h <;> decide

/-- a fault with its cause; `general` is a fault of a family that brings its own words -/
inductive Fault
  | general (kind : Fault.Kind) (message : String) (details : List (String × Datum)) (hint : Option String)
  | commandFailed (argv : List String) (reason : String) (status : Option Int) (stderr : String)
  | branchUnknown (project : String) (reason : String)
  | fileRejected (path : String) (reason : String)
  | valueRejected (key : String) (value : Datum) (reason : String)
  | unreachable (address : String) (timeout : Datum)
  | undecodable (reason : String) (size : Option Nat)
  | receiveCancelled
deriving Repr

namespace Fault

/-- why a branch is unknown when the command for it succeeds but prints nothing -/
def nothingPrinted : String := "git branch --show-current returned nothing"

def kind : Fault → Kind
  | .general k _ _ _ => k
  | .commandFailed _ _ _ _ => .commandFailed
  | .branchUnknown _ _ => .branchUnknown
  | .fileRejected _ _ => .fileRejected
  | .valueRejected _ _ _ => .valueRejected
  | .unreachable _ _ => .unreachable
  | .undecodable _ _ => .undecodable
  | .receiveCancelled => .receiveCancelled

def message : Fault → String
  | .general _ m _ _ => m
  | .commandFailed argv _ _ _ => "Command failed: " ++ argv.headD ""
  | .branchUnknown _ _ => "Unable to determine the current branch"
  | .fileRejected path _ => "Invalid config file: " ++ path
  | .valueRejected key _ _ => "Invalid configuration for " ++ key
  | .unreachable address _ => "No receiver listening at " ++ address
  | .undecodable _ _ => "Received findings could not be decoded"
  | .receiveCancelled => "Receiving findings was cancelled"

/-- a detail that may be missing -/
def optional (key : String) : Option Datum → List (String × Datum)
  | none => []
  | some d => [(key, d)]

/-- the circumstances, in the order in which they are told; those that are null are left out -/
def details : Fault → List (String × Datum)
  | .general _ _ ds _ => ds.filter fun d => match d.2 with | .null => false | _ => true
  | .commandFailed argv reason status stderr =>
    let said := Text.stripped stderr
    [("command", .list (argv.map .text)), ("reason", .text reason)] ++ optional "returncode" (status.map .int)
      ++ optional "stderr" (if said = "" then none else some (.text said))
  | .branchUnknown project reason => [("project_path", .text project), ("reason", .text reason)]
  | .fileRejected path reason => [("path", .text path), ("reason", .text reason)]
  | .valueRejected key value reason => [("key", .text key), ("value", .text value.literal), ("reason", .text reason)]
  | .unreachable address timeout =>
    [("address", .text address)] ++ (match timeout with | .null => [] | t => [("timeout_seconds", t)])
  | .undecodable reason size => ("reason", .text reason) :: optional "payload_size" (size.map fun n => .int n)
  | .receiveCancelled => []

/-- the next step for the reader -/
def hint : Fault → Option String
  | .general _ _ _ h => h
  | .branchUnknown _ _ => some "check out a branch; detached HEAD has no name to compare"
  | .unreachable _ _ => some "start 'code-styler receive' before sending"
  | _ => none

/-- a detail in running text; a list as its items between spaces -/
def showDetail : Datum → String
  | .list items => " ".intercalate (items.map Datum.plain)
  | d => d.plain

/-- message and details in one line -/
def render (f : Fault) : String :=
  match f.details with
  | [] => f.message
  | ds => f.message ++ " (" ++ ", ".intercalate (ds.map fun d => d.1 ++ "=" ++ showDetail d.2) ++ ")"

end Fault

end ChangeLint
