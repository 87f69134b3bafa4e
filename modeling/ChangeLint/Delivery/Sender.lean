/-
Sending findings to another program that may not listen yet. The sender makes one attempt after another: an attempt that
the operating system refuses is repeated after a pause, until the deadline has come; the last pause ends at the deadline,
so that the last attempt is made then. Any other failure ends the sending at once.

Once a connection is made the payload is written, once; then the connection is closed, whether the payload drained or not.

The scale of time is a parameter, and the other end says when an attempt fails, so that nothing here reads a clock.
-/
import ChangeLint.Act
import ChangeLint.Finding.Record
import ChangeLint.Seconds

namespace ChangeLint

/-- the other end as a sender meets it -/
structure Peer (τ : Type) where
  /-- why an attempt fails, by its number and the time at which it begins; none when a connection is made -/
  refusal : Nat → τ → Option Failure
  /-- how long an attempt takes -/
  cost : τ
  /-- whether the end of the payload can be told -/
  takesEnd : Bool
  /-- why the payload does not drain, if it does not -/
  drainFailure : Option Failure

/-- what to send, where to, and with how much patience -/
structure Parcel (τ : Type) where
  address : String
  payload : List UInt8
  timeout : τ
  pause : τ
  /-- the timeout as it is told to the reader -/
  timeoutTold : Datum

/-- a step of sending: an event, an attempt to connect, or a pause -/
inductive Sending.Step (τ : Type)
  | event (e : Event)
  | attempt
  | pause (d : τ)
deriving Repr

/-- what sending came to; it has no end when no end was in sight -/
structure Sending (τ : Type) where
  steps : List (Sending.Step τ)
  ending : Option (Except Failure Unit)

namespace Sending

variable {τ : Type}

/-- the events among the steps -/
def events (s : Sending τ) : List Event :=
  s.steps.filterMap fun | .event e => some e | _ => none

def pauses (s : Sending τ) : List τ :=
  s.steps.filterMap fun | .pause d => some d | _ => none

/-- how many attempts were made -/
def attempts (s : Sending τ) : Nat :=
  s.steps.countP fun | .attempt => true | _ => false

/-- sending as an action; without an end in sight someone interrupts it -/
def act (s : Sending τ) : Act Unit := ⟨s.events, s.ending.getD (.error .interrupted)⟩

end Sending

namespace Parcel

variable {τ : Type} [Add τ] [Sub τ] [OfNat τ 0] [LT τ] [LE τ] [DecidableLT τ] [DecidableLE τ]

/-- what is done on a connection that was made -/
def transmit (p : Parcel τ) (peer : Peer τ) : Act Unit := do
  Act.signal (.write p.payload)
  Act.signal .drain
  match peer.drainFailure with
  | some f =>
    Act.signal .close
    Act.signal .closed
    Act.fail f
  | none =>
    if peer.takesEnd then Act.signal .endOfFile else pure ()
    Act.signal .close
    Act.signal .closed
    Act.note .info (s!"Sent {p.payload.length} byte(s) of findings to " ++ p.address)

/-- the fault of a deadline that has passed -/
def unreachable (p : Parcel τ) : Failure := .fault (.unreachable p.address p.timeoutTold)

/-- how long to pause when some time remains -/
def pauseWithin (p : Parcel τ) (remaining : τ) : τ := if remaining < p.pause then remaining else p.pause

/-- at most `limit` attempts, the first of which has the number `n` and begins at `now` -/
def attemptsFrom (p : Parcel τ) (peer : Peer τ) (deadline : τ) : (limit n : Nat) → (now : τ) → Sending τ
  | 0, _, _ => ⟨[], none⟩
  | limit + 1, n, now =>
    let trying : List (Sending.Step τ) :=
      [.event (.note ⟨.debug, "Trying to send findings to " ++ p.address⟩), .attempt]
    match peer.refusal n now with
    | none =>
      let x := p.transmit peer
      ⟨trying ++ x.trace.map .event, some x.result⟩
    | some f =>
      if f.isSystem then
        let later := now + peer.cost
        let remaining := deadline - later
        if remaining ≤ 0 then ⟨trying, some (.error p.unreachable)⟩
        else
          let d := p.pauseWithin remaining
          let rest := p.attemptsFrom peer deadline limit (n + 1) (later + d)
          ⟨trying ++ .pause d :: rest.steps, rest.ending⟩
      else ⟨trying, some (.error f)⟩

/-- sends a parcel from time zero on, with at most `limit` attempts -/
def send (p : Parcel τ) (peer : Peer τ) (limit : Nat) : Sending τ := p.attemptsFrom peer (0 + p.timeout) limit 0 0

end Parcel

/-- where findings are sent, and with how much patience -/
structure Destination where
  host : String
  port : Int
  timeout : Seconds
  pause : Seconds
deriving DecidableEq, Repr

namespace Destination

/-- the pause between two attempts when none is chosen -/
def defaultPause : Seconds := .real (.ofInt 1)

def defaultTimeout : Seconds := .real (.ofInt 10)

def address (d : Destination) : String := d.host ++ s!":{d.port}"

/-- the parcel of some findings -/
def parcel [Interpreter] (d : Destination) (fs : List Finding) : Except Failure (Parcel Binary64) := do
  let payload ← Finding.encode fs
  let timeout ← d.timeout.toReal
  let pause ← d.pause.toReal
  pure ⟨d.address, payload, timeout, pause, d.timeout.datum⟩

/-- attempts after which the end is in sight when all are refused and each takes `step` with the pause behind it: as many as
fit into the timeout, and three more for the first, the last and what rounding leaves -/
def enoughAttempts (timeout step : Binary64) : Nat :=
  match timeout.ratio?, step.ratio? with
  | some (a, b), some (c, d) => (a * d / (c * b)).toNat + 3
  | _, _ => 3

/-- sends findings; a peer that refuses `refusals` attempts at most is watched until it accepts, else as long as an end can
be in sight -/
def send [Interpreter] (d : Destination) (peer : Peer Binary64) (refusals : Option Nat) (fs : List Finding) :
    Sending Binary64 :=
  match d.parcel fs with
  | .error f => ⟨[], some (.error f)⟩
  | .ok p =>
    p.send peer (match refusals with
      | some n => n + 1
      | none => enoughAttempts p.timeout (p.pause + peer.cost))

end Destination

end ChangeLint
