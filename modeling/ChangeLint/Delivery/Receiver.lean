/-
Waiting for findings that another program sends. A receiver listens in sessions. The result of a session is fixed by the
first payload that comes in complete, or by closing; a payload that comes in when the result is fixed changes nothing.

A receive starts a session unless one is on, and ends when the result is there: with the findings, with the reason why the
payload is none, or as cancelled when the receiver was closed. A receive may carry a token; once that is set, and there is
no result yet, the receive ends as cancelled by its caller. A receive that ends closes the receiver.

A connection does not belong to a session: `complete` looks at the result that is there when the payload is complete.
-/
import ChangeLint.Act
import ChangeLint.Finding.Record

namespace ChangeLint

/-- what a session has come to -/
inductive Receiver.Result
  | open
  | found (fs : List Finding)
  | refused (f : Failure)
  | closed
deriving Repr

/-- true of results that nothing changes any more -/
def Receiver.Result.isFixed : Receiver.Result → Bool
  | .open => false
  | _ => true

/-- a receive: pending, with its token if it has one, or ended -/
inductive Receiver.Receive
  | pending (token : Option Bool)
  | ended (r : Except Failure (List Finding))

/-- a receiver: the address to listen on, whether it listens, the result of the last session, and all receives in order -/
structure Receiver where
  host : String
  port : Int
  listening : Bool
  result : Option Receiver.Result
  receives : List Receiver.Receive

/-- what reading a connection to its end yields: the payload, or why there is none -/
abbrev Receiver.Reading := Except Failure (List UInt8)

/-- how binding a port ends: with a failure, or with the port that was bound, if that can be told -/
abbrev Receiver.Binding := Int → Except Failure (Option Int)

namespace Receiver

/-- a receiver that has not listened yet -/
def create (host : String) (port : Int) : Receiver := ⟨host, port, false, none, []⟩

/-- starts a session, unless one is on, and answers the port -/
def start (bind : Binding) (r : Receiver) : Receiver × Act Int :=
  if r.listening then (r, pure r.port)
  else
    let r := { r with result := some .open }
    match bind r.port with
    | .error f => (r, ⟨[.signal (.bind r.host r.port)], .error f⟩)
    | .ok bound =>
      let port := bound.getD r.port
      let waiting : Entry := ⟨.info, "Waiting for findings on " ++ r.host ++ s!":{port}"⟩
      ({ r with listening := true, port := port }, ⟨[.signal (.bind r.host r.port), .note waiting], .ok port⟩)

/-- stops listening; an open result is cancelled -/
def stop (r : Receiver) : Receiver × List Event :=
  let result := match r.result with
    | some .open => some .closed
    | other => other
  ({ r with listening := false, result := result }, if r.listening then [.signal .serverClosed] else [])

/-- the end that a result means for a receive -/
def Result.ending? : Result → Option (Except Failure (List Finding))
  | .open => none
  | .found fs => some (.ok fs)
  | .refused f => some (.error f)
  | .closed => some (.error .cancelled)

/-- a receive with the result at hand: the result comes before the token -/
def Receive.settle (result : Option Result) : Receive → Receive
  | .pending token =>
    match result.bind Result.ending? with
    | some e => .ended e
    | none => if token = some true then .ended (.error (.fault .receiveCancelled)) else .pending token
  | r => r

/-- what is noted when a receive ends -/
def Receive.notes (result : Option Result) : Receive → List Event
  | .pending token =>
    match result.bind Result.ending? with
    | some (.ok fs) => [.note ⟨.info, s!"Received {fs.length} finding(s)"⟩]
    | some (.error _) => []
    | none => if token = some true then [.note ⟨.info, "Receiving findings was cancelled"⟩] else []
  | .ended _ => []

/-- true of receives that are pending -/
def Receive.isPending : Receive → Bool
  | .pending _ => true
  | .ended _ => false

/-- ends the receives that can end, and closes the receiver if there is one; the others then end as cancelled -/
def settle (r : Receiver) : Receiver × List Event :=
  let settled := r.receives.map (Receive.settle r.result)
  let noted := r.receives.flatMap (Receive.notes r.result)
  if settled.countP Receive.isPending < r.receives.countP Receive.isPending then
    let (stopped, events) := stop r
    ({ stopped with receives := settled.map (Receive.settle stopped.result) }, noted ++ events)
  else (r, [])

/-- a step of a receiver, after which every receive that can end has ended -/
def settled {α : Type} (x : Receiver × Act α) : Receiver × Act α :=
  let (r, events) := x.1.settle
  (r, ⟨x.2.trace ++ events, x.2.result⟩)

/-- starts a receive with its token, which may be set already, or without one -/
def receiveWith (bind : Binding) (token : Option Bool) (r : Receiver) : Receiver × Act Unit :=
  let (r, x) := r.start bind
  let made : Receive := match x.result with
    | .ok _ => .pending token
    | .error f => .ended (.error f)
  settled ({ r with receives := r.receives ++ [made] }, ⟨x.trace, .ok ()⟩)

/-- starts a receive; `token` is true when it comes with a token, which is not set yet -/
def receive (bind : Binding) (token : Bool) (r : Receiver) : Receiver × Act Unit :=
  r.receiveWith bind (if token then some false else none)

/-- receives with the last token among the pending ones set -/
def setLast : List Receive → List Receive
  | [] => []
  | .pending (some set) :: rest =>
    if rest.any fun | .pending (some _) => true | _ => false then .pending (some set) :: setLast rest
    else .pending (some true) :: rest
  | r :: rest => r :: setLast rest

def cancel (r : Receiver) : Receiver × Act Unit := settled ({ r with receives := setLast r.receives }, pure ())

def close (r : Receiver) : Receiver × Act Unit :=
  let (r, events) := r.stop
  settled (r, ⟨events, .ok ()⟩)

section

variable [Interpreter]

/-- the result that a payload means; a failure other than a fault of the payload is no result -/
def Result.ofPayload (bytes : List UInt8) : Except Failure Result :=
  match Finding.decode bytes with
  | .ok fs => .ok (.found fs)
  | .error (.fault f) => .ok (.refused (.fault f))
  | .error f => .error f

/-- a payload fixes the result, unless that is fixed; no receive has taken note yet -/
def take (r : Receiver) (bytes : List UInt8) : Receiver × Except Failure Unit :=
  match r.result with
  | some .open =>
    match Result.ofPayload bytes with
    | .ok result => ({ r with result := some result }, .ok ())
    | .error f => (r, .error f)
  | _ => (r, .ok ())

/-- a connection has been read to its end -/
def complete (reading : Reading) (r : Receiver) : Receiver × Act Unit :=
  let (r, result) := match reading with
    | .error f => (r, .error f)
    | .ok bytes => r.take bytes
  settled (r, ⟨[.signal .close], result⟩)

/-- a connection that is made and read to its end at once, if the receiver listens; answers whether it does -/
def connect (reading : Reading) (r : Receiver) : Receiver × Act Bool :=
  if r.listening then
    let (r, x) := r.complete reading
    (r, ⟨x.trace, x.result.map fun _ => true⟩)
  else (r, pure false)

end

def last? (r : Receiver) : Option Receive := r.receives.getLast?

end Receiver

end ChangeLint
