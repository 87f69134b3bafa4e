/-
A run of the command line: from words to an exit status, a report on the output and explanations for the reader. The report
is written only when everything before it went well, and its status tells whether an error was found.

All that a run needs from outside is in a `World`, so that it can be followed here from beginning to end.
-/
import ChangeLint.Analysis
import ChangeLint.CommandLine.Request
import ChangeLint.Delivery.Receiver
import ChangeLint.Delivery.Sender
import ChangeLint.Report
import ChangeLint.Settings.Load

namespace ChangeLint.CommandLine

/-- what a run finds outside: the terminal, files as seen from the working directory, the files of settings that are looked
for, the environment, the answers of commands, who listens when findings are sent and after how many refusals, how a port is
bound, and what a connection brings once it is -/
structure World where
  terminal : Terminal
  files : Files
  home : Settings.Source
  project : Settings.Source
  environment : List (String × String)
  commands : Commands
  peer : Peer Binary64
  refusals : Option Nat
  binding : Receiver.Binding
  arrival : Option Receiver.Reading

/-- the end of a run: its status, its report, lines for the reader, what was observed, and how a wrong usage was wrong -/
structure Outcome where
  status : Nat
  report : String
  lines : List String
  trace : List Event
  usage : Option Usage

def version : String := "0.1.0"

namespace Outcome

/-- a run that ends without a report -/
def silent (status : Nat) (trace : List Event) : Outcome := ⟨status, "", [], trace, none⟩

def shown (t : Terminal) (markup : String) : Option (List String) := (t.lines markup).toOption

/-- what is said before a fault -/
def errorLabel : String := Terminal.styled "red" "Error:" ++ " "

/-- a fault and the next step, in lines for the reader; the fault alone if the next step is refused, and nothing if the
fault is -/
def explanation (t : Terminal) (f : Fault) : List String :=
  match shown t (errorLabel ++ t.escape f.render) with
  | none => []
  | some lines =>
    match f.hint with
    | none => lines
    | some "" => lines
    | some hint => lines ++ (shown t (Terminal.styled "dim" ("Hint: " ++ t.escape hint))).getD []

/-- a run that failed: a fault is explained, an interruption has a status of its own -/
def failed (t : Terminal) (trace : List Event) : Failure → Outcome
  | .fault f => ⟨1, "", explanation t f, trace, none⟩
  | .interrupted => silent 130 trace
  | .exited n => silent n trace
  | _ => silent 1 trace

/-- a run that found something to report; with `strict` its status tells whether an error was found -/
def reported [Interpreter] (t : Terminal) (format : Report.Format) (strict : Bool) (trace : List Event) (fs : List Finding) :
    Outcome :=
  match Report.printed format t fs with
  | .error _ => silent 1 trace
  | .ok text => ⟨if strict && fs.any fun f => f.severity = .error then 1 else 0, text, [], trace, none⟩

/-- the outcome of an action that finds something -/
def ofAct [Interpreter] (t : Terminal) (format : Report.Format) (strict : Bool) (x : Act (List Finding)) : Outcome :=
  match x.result with
  | .error f => failed t x.trace f
  | .ok fs => reported t format strict x.trace fs

end Outcome

/-- a value for a setting that may not be given -/
def given (d : Option Datum) : Datum := d.getD .null

@[simp] theorem isWhole_given_text (s : Option String) : (given (s.map .text)).isWhole = true := by
  cases s <;> rfl

@[simp] theorem isWhole_given_int (n : Option Int) : (given (n.map .int)).isWhole = true := by
  cases n <;> rfl

/-- what the command line overrides: values for settings -/
structure Overrides where
  members : List (String × Datum)
  whole : ∀ m ∈ members, m.2.isWhole = true

def CheckRequest.overrides (r : CheckRequest) : Overrides where
  members :=
    [("target_branch", given (r.target.map .text)), ("diff_source", given (r.diffSource.map .text)),
     ("verbose", .bool r.manner.verbose), ("quiet", .bool r.manner.quiet)]
  whole := by simp [Datum.isWhole]

/-- what a check of a merge request overrides -/
def JobRequest.overrides (r : JobRequest) : Overrides where
  members :=
    [("target_branch", .text r.target), ("diff_source", given (r.diffSource.map .text)),
     ("verbose", .bool r.manner.verbose), ("quiet", .bool r.manner.quiet)]
  whole := by simp [Datum.isWhole]

def WaitRequest.overrides (r : WaitRequest) : Overrides where
  members := [("transport_host", given (r.host.map .text)), ("transport_port", given (r.port.map .int))]
  whole := by simp

section

variable [Interpreter]

def settings (w : World) (file : Option String) (o : Overrides) : Except Failure Settings :=
  Settings.load ⟨w.home, w.project, file.map fun p => ⟨p, w.files p⟩, w.environment, o.members, o.whole⟩

/-- settings with more paths excluded -/
def excluding (s : Settings) (excludes : List String) : Settings := { s with excludePaths := s.excludePaths ++ excludes }

/-- sends findings as settings say -/
def deliver (w : World) (s : Settings) (fs : List Finding) : Act Unit :=
  (Destination.send ⟨s.transportHost, s.transportPort, s.sendTimeout, Destination.defaultPause⟩ w.peer w.refusals fs).act

def check (w : World) (r : CheckRequest) : Act (List Finding) := do
  let s ← Act.ofExcept (settings w r.settingsFile r.overrides)
  let s := excluding s r.excludes
  Act.note .debug ("Loaded settings: " ++ s.literal)
  let checkers ← Act.ofExcept (Analysis.diffCheckers s r.directory w.files w.commands)
  let fs ← Analysis.ofCheckout w.commands s r.directory checkers
  if r.send then deliver w s fs else pure ()
  pure fs

def job (w : World) (r : JobRequest) : Act (List Finding) := do
  let s ← Act.ofExcept (settings w r.settingsFile r.overrides)
  let checkers ← Act.ofExcept (Analysis.diffCheckers s r.directory w.files w.commands)
  Analysis.ofMergeRequest w.commands s r.directory ⟨r.source, r.target⟩ checkers Analysis.mergeRequestCheckers

/-- what a receive that is not pending any more has come to; a pending one is interrupted -/
def ending : Option Receiver.Receive → Except Failure (List Finding)
  | some (.ended e) => e
  | _ => .error .interrupted

/-- a wait for findings: a connection comes as soon as the port is bound -/
def wait (w : World) (r : WaitRequest) : Act (List Finding) := do
  let s ← Act.ofExcept (settings w none r.overrides)
  let (receiver, x) := (Receiver.create s.transportHost s.transportPort).receive w.binding false
  match w.arrival with
  | none => ⟨x.trace, ending receiver.last?⟩
  | some reading =>
    let (receiver, y) := receiver.connect reading
    ⟨x.trace ++ y.trace, ending receiver.last?⟩

end

/-- why a manner is none -/
def Manner.problem? (m : Manner) : Option String :=
  if m.verbose && m.quiet then some "--verbose and --quiet are mutually exclusive"
  else if (Report.Format.ofName? m.format).isNone then
    some ("--format must be one of: " ++ ", ".intercalate (Report.Format.all.map (·.name)))
  else none

/-- true of events that are kept: of entries those of a level and above -/
def isKept (threshold : Level) : Event → Bool
  | .note e => e.isKept threshold
  | _ => true

/-- the outcome of an action in a manner: what is logged is no less than the manner asks for -/
def inManner [Interpreter] (w : World) (m : Manner) (strict : Bool) (x : Act (List Finding)) : Outcome :=
  match m.problem?, Report.Format.ofName? m.format with
  | none, some format =>
    let o := Outcome.ofAct w.terminal format strict x
    { o with trace := o.trace.filter (isKept (Log.threshold m.verbose m.quiet)) }
  | problem, _ => ⟨1, "", (Outcome.shown w.terminal (Outcome.errorLabel ++ problem.getD "")).getD [], [], none⟩

section

variable [Interpreter]

def answer (w : World) : Request → Outcome
  | .version => ⟨0, "", ["Code Styler version " ++ version], [], none⟩
  | .help => .silent 0 []
  | .check r => inManner w r.manner true (check w r)
  | .job r => inManner w r.manner true (job w r)
  | .wait r => inManner w r.manner false (wait w r)

/-- a run on the words of a command line -/
def run (w : World) (words : List String) : Outcome :=
  match Request.read w.files words with
  | .error (.usage u) => ⟨2, "", [], [], some u⟩
  | .error (.failure f) => .failed w.terminal [] f
  | .ok r => answer w r

end

end ChangeLint.CommandLine
