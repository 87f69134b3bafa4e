/-
Failures: all that can end an action early. A failure is a fault of this library, a refusal of one of its readers, a
value of the wrong kind where no reader stands in between, or something that a collaborator (a checker, a command, a
socket) raised; the last is passed on unchanged.
-/
import ChangeLint.Command.Words
import ChangeLint.Fault
import ChangeLint.Pattern.Refusal
import ChangeLint.Script.Refusal
import ChangeLint.Text.Utf8

namespace ChangeLint

/-- a use of a datum that its kind does not admit -/
inductive Misuse
  | member (kind : String)
  | missingKey (key : String)
  | unhashable (kind : String)
  | joined (index : Nat) (kind : String)
  | order (left right : String)
  | noReplace (kind : String)
  | notText (kind : String)
  | notRenderable (kind : String)
  | noLength (kind : String)
  | noNumber (kind : String)
  | noStrip (kind : String)
  | notIterable (kind : String)
deriving DecidableEq, Repr

def Misuse.message : Misuse → String
  | .member "str" => "string indices must be integers, not 'str'"
  | .member "list" => "list indices must be integers or slices, not str"
  | .member kind => "'" ++ kind ++ "' object is not subscriptable"
  | .missingKey key => Text.quote key
  | .unhashable kind => "unhashable type: '" ++ kind ++ "'"
  | .joined i kind => s!"sequence item {i}: expected str instance, " ++ kind ++ " found"
  | .order l r => "'<' not supported between instances of '" ++ l ++ "' and '" ++ r ++ "'"
  | .noReplace kind => "'" ++ kind ++ "' object has no attribute 'replace'"
  | .notText kind => "expected string or bytes-like object, got '" ++ kind ++ "'"
  | .notRenderable kind => "unable to render " ++ kind ++ "; a string or other renderable object is required"
  | .noNumber kind =>
    "int() argument must be a string, a bytes-like object or a real number, not '" ++ kind ++ "'"
  | .noStrip kind => "'" ++ kind ++ "' object has no attribute 'rstrip'"
  | .noLength kind => "object of type '" ++ kind ++ "' has no len()"
  | .notIterable kind => "'" ++ kind ++ "' object is not iterable"

/-- how an action ended early -/
inductive Failure
  | fault (f : Fault)
  | misuse (m : Misuse)
  | tooLong (e : Number.TooLong)
  | notUtf8 (e : Text.Utf8.Error)
  | unencodable (e : Text.Unencodable)
  | notAValue (value : Datum) (type : String)
  | words (e : Command.WordsError)
  | pattern (text : String) (e : Pattern.Refusal)
  | notANumber (e : Number.IntError)
  | beyondReals
  | missingGroups
  | script (e : Script.Refusal)
  | nulInPath
  | unknownArgument (type key : String)
  | markup (reason : String)
  | exhausted (message : String)
  | cancelled
  | interrupted
  | exited (status : Nat)
  | system (kind text : String)
  | foreign (kind text : String)
deriving Repr

namespace Failure

def message : Failure → String
  | .fault f => f.render
  | .misuse m => m.message
  | .tooLong e => e.message
  | .notUtf8 e => e.message
  | .unencodable e => e.message
  | .notAValue v type => v.literal ++ " is not a valid " ++ type
  | .words e => e.message
  | .pattern text e => e.message text.toList
  | .notANumber e => e.message
  | .beyondReals => "int too large to convert to float"
  | .missingGroups => "formatter pattern needs 'line' and 'message' groups"
  | .script e => e.message
  | .nulInPath => "embedded null byte"
  | .unknownArgument type key => type ++ ".__init__() got an unexpected keyword argument '" ++ key ++ "'"
  | .markup reason => reason
  | .exhausted m => m
  | .cancelled => ""
  | .interrupted => ""
  | .exited n => toString n
  | .system _ t => t
  | .foreign _ t => t

/-- a report of the operating system of a kind that has no name -/
def unnamed (text : String) : Failure := .system "" text

/-- a text in which it makes no difference what stands for halves -/
def settled (write : (Text.Half → Char) → Except Failure String) : Except Failure String := do
  let low ← write Text.lowStand
  let high ← write Text.highStand
  if low = high then .ok low else .error (.unencodable (Text.firstHalves low.toList high.toList))

theorem settled_of_const {write : (Text.Half → Char) → Except Failure String} {x : Except Failure String}
    (h : ∀ half, write half = x) : settled write = x := by
  rw [settled, h, h]
  cases x with
  | error e => rfl
  | ok s => simp [bind, Except.bind]

/-- true of what no task can hold: it stops the loop that the task runs in -/
def isHalting : Failure → Bool
  | .interrupted => true
  | .exited _ => true
  | _ => false

/-- true of what the operating system reports, which may pass when it is tried again -/
def isSystem : Failure → Bool
  | .system _ _ => true
  | _ => false

end Failure

end ChangeLint
