/-
Programs that run beside this one. A process that could be launched ends with a status and with what it wrote, in
order, on its output and on its channel for complaints. A caller takes the output whole, or both channels line by line.

A launch or a status that is not zero becomes a fault here, if the caller asks for that.
-/
import ChangeLint.Command.Basic

namespace ChangeLint.Program

inductive Channel
  | output
  | complaints
deriving DecidableEq, Repr

structure Ended where
  written : List (Channel × List UInt8)
  status : Int
deriving DecidableEq, Repr

def Ended.on (p : Ended) (c : Channel) : List UInt8 := (p.written.filter fun w => w.1 = c).flatMap (·.2)

/-- what was written on both channels -/
def Ended.merged (p : Ended) : List UInt8 := p.written.flatMap (·.2)

/-- why a process cannot be launched; the name is that of the program or of the directory to run it in -/
inductive Refusal
  | missing (name : String)
  | forbidden (name : String)
  | notADirectory (name : String)
  | nul
deriving DecidableEq, Repr

/-- the refusal in the words of the operating system -/
def Refusal.message : Refusal → String
  | .missing name => "[Errno 2] No such file or directory: " ++ Text.quote name
  | .forbidden name => "[Errno 13] Permission denied: " ++ Text.quote name
  | .notADirectory name => "[Errno 20] Not a directory: " ++ Text.quote name
  | .nul => Failure.nulInPath.message

/-- an attempt to run a program to its end -/
abbrev Launch := Except Refusal Ended

/-- what programs do when they are run in a directory with some arguments -/
abbrev System := (directory : String) → (argv : List String) → Launch

/-- what is noted before a launch -/
def note (directory : String) (argv : List String) : Entry :=
  ⟨.debug, "Running " ++ " ".intercalate argv ++ " in " ++ directory⟩

/-- the process of a launch, or the fault that there is none -/
def launched (argv : List String) : Launch → Except Failure Ended
  | .ok p => .ok p
  | .error .nul => .error .nulInPath
  | .error e => .error (.fault (.commandFailed argv ("cannot launch: " ++ e.message) none ""))

def text (bytes : List UInt8) : String := String.ofList (Text.Utf8.decodeLossy bytes)

/-- the fault of a status that is not zero -/
def badStatus (argv : List String) (p : Ended) (complaints : String) : Failure :=
  .fault (.commandFailed argv "non-zero exit" (some p.status) complaints)

/-- the whole output of a program; with `check` its status must be zero -/
def output (check : Bool) (argv : List String) (l : Launch) : Except Failure String := do
  let p ← launched argv l
  if check && p.status != 0 then throw (badStatus argv p (text (p.on .complaints)))
  pure (text (p.on .output))

/-- bytes cut behind each line feed; `line` is the line that has begun, backwards -/
def cutLines (line : List UInt8) : List UInt8 → List (List UInt8)
  | [] => if line.isEmpty then [] else [line.reverse]
  | b :: bs => if b = 10 then (b :: line).reverse :: cutLines [] bs else cutLines (b :: line) bs

/-- a text without the carriage returns and line feeds at its end -/
def chomp (s : String) : String :=
  String.ofList (s.toList.reverse.dropWhile fun c => c = '\r' || c = '\n').reverse

/-- the most bytes that a line may have, its line feed apart -/
def lineLimit : Nat := 65536

/-- true of lines that can be taken -/
def isShort (line : List UInt8) : Bool := (line.takeWhile (· != 10)).length ≤ lineLimit

/-- the failure of a line that is too long, in the words for one that comes in whole -/
def overlong : Failure := .foreign "ValueError" "Separator is found, but chunk is longer than limit"

/-- the lines on both channels of a process, with their ends -/
def Ended.lines (p : Ended) : List (List UInt8) := cutLines [] p.merged

/-- lines that were taken from a process, and how that ended -/
structure Streamed where
  lines : List String
  ending : Except Failure Unit

/-- how the lines of a process end for a caller who takes all of them -/
def ending (check : Bool) (argv : List String) (p : Ended) : Except Failure Unit :=
  if !p.lines.all isShort then .error overlong
  else if check && p.status != 0 then .error (badStatus argv p "") else .ok ()

/-- the lines of a program, up to one that is too long; with `check` its status must be zero. A caller who wants `most` lines
stops the program behind the last of them, and what comes then does not count -/
def stream (check : Bool) (most : Option Nat) (argv : List String) (l : Launch) : Streamed :=
  match launched argv l with
  | .error f => ⟨[], .error f⟩
  | .ok p =>
    let lines := (p.lines.takeWhile isShort).map fun l => chomp (text l)
    match most with
    | none => ⟨lines, ending check argv p⟩
    | some n => if lines.length < n then ⟨lines, ending check argv p⟩ else ⟨lines.take n, .ok ()⟩

/-- the answers of commands that are run in a directory -/
def commands (system : System) (directory : String) : Commands where
  output argv := output true argv (system directory argv)
  lines argv :=
    let s := stream false none argv (system directory argv)
    s.ending.map fun _ => s.lines

end ChangeLint.Program
