/-
Actions: a computation together with what was observed on its way. An `Act` holds the events in order and the result, a
value or a failure; `bind` joins the events and stops at the first failure.

Events are log entries, the commands that were run and what was done on a connection, so that every order can be read off
one trace.
-/
import ChangeLint.Delivery.Signal
import ChangeLint.Failure
import ChangeLint.Log

namespace ChangeLint

/-- something observed: a log entry, a command with its arguments, or a step on a connection -/
inductive Event
  | note (e : Entry)
  | command (argv : List String)
  | signal (s : Signal)
deriving DecidableEq, Repr

/-- the entry of an event that is one -/
def Event.entry? : Event → Option Entry
  | .note e => some e
  | _ => none

/-- the arguments of an event that is a command -/
def Event.argv? : Event → Option (List String)
  | .command argv => some argv
  | _ => none

/-- the step on a connection of an event that is one -/
def Event.signal? : Event → Option Signal
  | .signal s => some s
  | _ => none

/-- an action that has been run: its trace and its end -/
structure Act (α : Type) where
  trace : List Event
  result : Except Failure α

namespace Act

variable {α β : Type}

/-- an action that observes nothing -/
def done (a : α) : Act α := ⟨[], .ok a⟩

def fail (f : Failure) : Act α := ⟨[], .error f⟩

/-- an action that fails at once with a fault of this library -/
def faulty (f : Fault) : Act α := fail (.fault f)

def bind (x : Act α) (f : α → Act β) : Act β :=
  match x.result with
  | .error e => ⟨x.trace, .error e⟩
  | .ok a => ⟨x.trace ++ (f a).trace, (f a).result⟩

instance : Monad Act where
  pure := done
  bind := bind

def note (level : Level) (text : String) : Act Unit := ⟨[.note ⟨level, text⟩], .ok ()⟩

def signal (s : Signal) : Act Unit := ⟨[.signal s], .ok ()⟩

/-- log entries made elsewhere -/
def notes (log : List Entry) : Act Unit := ⟨log.map .note, .ok ()⟩

/-- a result found without observation -/
def ofExcept (r : Except Failure α) : Act α := ⟨[], r⟩

def log (x : Act α) : List Entry := x.trace.filterMap Event.entry?

def calls (x : Act α) : List (List String) := x.trace.filterMap Event.argv?

/-- the steps of an action on its connections -/
def signals (x : Act α) : List Signal := x.trace.filterMap Event.signal?

/-- the action with its failure seen by a handler, which may end it otherwise -/
def handle (x : Act α) (h : Failure → Act α) : Act α :=
  match x.result with
  | .ok _ => x
  | .error e => ⟨x.trace ++ (h e).trace, (h e).result⟩

/-- an action for each item, in order, up to the first failure -/
def each (f : α → Act β) : List α → Act (List β)
  | [] => done []
  | a :: as => bind (f a) fun b => bind (each f as) fun bs => done (b :: bs)

end Act

end ChangeLint
