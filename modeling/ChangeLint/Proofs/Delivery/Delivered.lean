/-
From the findings that are sent to the findings that a receive returns.

The sender puts the payload on the wire once (`Sending`), the stream hands it to the reader of the connection (`Stream`), and
the payload that was read fixes the result of the receiver. What comes out are the findings that were sent, in their order and
with all their fields, without those on a merge request.

Of the network it is assumed that all bytes that were sent come in, in their order, and then the end.

Results:
- `returns_connect`: what a payload of findings does to a receiver in a session without a result;
- `delivered_send`: a sender that is accepted in time delivers its findings, however the stream is cut and read.
-/
import ChangeLint.Proofs.Delivery.Sending
import ChangeLint.Proofs.Delivery.Step
import ChangeLint.Proofs.Delivery.Stream
import ChangeLint.Proofs.Finding.Received

namespace ChangeLint

namespace Receiver

variable {r : Receiver} {bytes : List UInt8} {fs : List Finding}

/-- a receiver in a session without a result yet -/
structure Awaits (r : Receiver) : Prop where
  listening : r.listening = true
  isOpen : r.result = some .open

section

variable [Interpreter]

/-- the payload of a connection gives findings to a receiver: to each receive that is pending, and if none is, to the next
one, with whatever token -/
structure Returns (r : Receiver) (bytes : List UInt8) (fs : List Finding) : Prop where
  pending : ∀ i : Nat, ∀ token, r.receives[i]? = some (.pending token) →
    (r.connect (.ok bytes)).1.receives[i]? = some (.ended (.ok fs))
  next : (∀ x ∈ r.receives, x.isPending = false) → ∀ bound token,
    ((r.connect (.ok bytes)).1.receiveWith (fun _ => .ok bound) token).1.last? = some (.ended (.ok fs))

theorem connect_eq (h : r.Awaits) (hdecode : Finding.decode bytes = .ok fs) :
    (r.connect (.ok bytes)).1 = ({ r with result := some (.found fs) } : Receiver).settle.1 := by
  have hcomplete := @complete_of_ok r (.found fs) bytes _ h.isOpen (by rw [Result.ofPayload, hdecode])
  rw [connect, if_pos h.listening, hcomplete]
  rfl

/-- the last receive, if it is pending -/
theorem last?_connect (h : r.Awaits) (hdecode : Finding.decode bytes = .ok fs) {old : List Receive} {token : Option Bool}
    (hreceives : r.receives = old ++ [.pending token]) : (r.connect (.ok bytes)).1.last? = some (.ended (.ok fs)) := by
  rw [connect_eq h hdecode, last?, (resolves_of_isFixed r rfl).receives, hreceives, List.map_append, List.map_singleton,
    List.getLast?_concat]
  rfl

/-- **A payload of findings** ends all receives that are pending with these, or the next one -/
theorem returns_connect (h : r.Awaits) (hdecode : Finding.decode bytes = .ok fs) : r.Returns bytes fs := by
  refine ⟨fun i token hi => ?_, fun hended bound token => ?_⟩
  · rw [connect_eq h hdecode, (resolves_of_isFixed r rfl).receives, List.getElem?_map, hi]
    rfl
  · have hconnect : (r.connect (.ok bytes)).1 = { r with result := some (.found fs) } := by
      rw [connect_eq h hdecode, settle_of_allEnded (r := { r with result := some (.found fs) }) hended]
    have hfirst : some (Result.found fs) = some (Result.ofFirst [bytes]) := by
      rw [Result.ofFirst, hdecode]
      rfl
    have hdue : Receive.due token [bytes] = .ended (.ok fs) := congrArg Receive.ended hdecode
    have hstart := start_of_listening (r := { r with result := some (.found fs) }) h.listening fun _ => .ok bound
    rw [hconnect, receiveWith_eq, hstart, settle_due hfirst rfl hended, hdue, last?]
    exact List.getLast?_concat

/-- a receive that starts a session waits in it, if its token is not set -/
theorem awaits_receiveWith (hclosed : r.listening = false) (hended : ∀ x ∈ r.receives, x.isPending = false)
    (bound : Option Int) {token : Option Bool} (htoken : token ≠ some true) :
    (r.receiveWith (fun _ => .ok bound) token).1.Awaits ∧
      (r.receiveWith (fun _ => .ok bound) token).1.receives = r.receives ++ [.pending token] := by
  have hdue : Receive.due token [] = .pending token := if_neg htoken
  have hunset : some Result.open = some (Result.ofFirst []) := rfl
  rw [receiveWith_eq, (start_of_not_listening hclosed bound).1, settle_due hunset rfl hended, hdue]
  exact ⟨⟨rfl, rfl⟩, rfl⟩

end

end Receiver

section

variable [Interpreter]

/-- **Delivery**: what the sender comes to, what is read from the connection, and what receivers return -/
structure Delivered (d : Destination) (peer : Peer Binary64) (n : Nat) (fs : List Finding) (payload : List UInt8) : Prop where
  encoded : Finding.encode fs = .ok payload
  /-- the sender ends well after its attempts, and has written the payload, once -/
  sends : Sends (d.send peer (some n) fs) (n + 1) payload peer.takesEnd
  /-- once all that was sent has come in and then the end, the reader needs only go on to return the payload -/
  reads : ∀ limit moves, 0 < limit → .finish ∈ moves →
    Stream.entered moves = Signal.sent (d.send peer (some n) fs).act.signals →
      ∃ k, (Stream.empty.run limit (moves ++ List.replicate k .take)).payload? = some payload
  /-- whatever way it was cut and read, a receiver in a session without a result returns the findings that were sent -/
  returns : ∀ limit moves bytes, Stream.entered moves = Signal.sent (d.send peer (some n) fs).act.signals →
    (Stream.empty.run limit moves).payload? = some bytes →
      ∀ r : Receiver, r.Awaits → r.Returns bytes (fs.filter fun f => !f.isMergeRequest)
  /-- so does a receive on a receiver that has not listened before -/
  receives : ∀ limit moves bytes, Stream.entered moves = Signal.sent (d.send peer (some n) fs).act.signals →
    (Stream.empty.run limit moves).payload? = some bytes →
      ∀ host port bound token, token ≠ some true →
        (((Receiver.create host port).receiveWith (fun _ => .ok bound) token).1.connect (.ok bytes)).1.last? =
          some (.ended (.ok (fs.filter fun f => !f.isMergeRequest)))

/-- **A sender that is accepted in time delivers its findings** -/
theorem delivered_send {d : Destination} {peer : Peer Binary64} {n : Nat} {fs : List Finding} {p : Parcel Binary64}
    (hfs : ∀ f ∈ fs, f.IsSendable) (hparcel : d.parcel fs = .ok p) (haccepted : p.Accepted peer n)
    (hdrain : peer.drainFailure = none) : Delivered d peer n fs p.payload := by
  have hsends := Destination.sends_send hparcel haccepted hdrain
  have hsent : Signal.sent (d.send peer (some n) fs).act.signals = p.payload := by
    rw [hsends.signals, sent_written]
  have hencode := Destination.payload_of_parcel hparcel
  have hdecode := Finding.decode_of_encode hfs hencode
  have hbytes : ∀ limit moves bytes, Stream.entered moves = Signal.sent (d.send peer (some n) fs).act.signals →
      (Stream.empty.run limit moves).payload? = some bytes → bytes = p.payload :=
    fun limit moves bytes hentered hread => (Stream.payload?_run hread).trans (hentered.trans hsent)
  refine ⟨hencode, hsends, ?reads, ?returns, ?receives⟩
  case reads =>
    intro limit moves hlimit hend hentered
    rw [← hsent, ← hentered]
    exact ⟨_, Stream.payload?_of_takes hlimit hend⟩
  case returns =>
    intro limit moves bytes hentered hread r hr
    obtain rfl := hbytes limit moves bytes hentered hread
    exact Receiver.returns_connect hr hdecode
  case receives =>
    intro limit moves bytes hentered hread host port bound token htoken
    obtain rfl := hbytes limit moves bytes hentered hread
    obtain ⟨hawaits, hpending⟩ := Receiver.awaits_receiveWith (r := .create host port) rfl (by simp [Receiver.create]) bound
      htoken
    exact Receiver.last?_connect hawaits hdecode hpending

end

/-! ## A delivery -/

/-- ten seconds of patience, a second between two attempts -/
def nearby : Destination := ⟨"127.0.0.1", 50001, .whole 10, .real (.ofInt 1)⟩

/-- it refuses two attempts, each after half a second, and then takes the payload -/
def slowPeer : Peer Binary64 where
  refusal k _ := if k < 2 then some (.system "ConnectionRefusedError" "[Errno 111] Connection refused") else none
  cost := .round false 1 2
  takesEnd := true
  drainFailure := none

def quotedSource : Source := ⟨.text "\"T\"", .text ""⟩

/-- findings of all scopes, with quotes and with characters of two and of four bytes -/
def mixed : List Finding :=
  [.line (.text "é \"a\".py") (.int (-7)) .removed (.text "\x00\n😀") quotedSource .warning,
    .mergeRequest (.text "stays") quotedSource .error, .file (.text "[]") (.text "null") quotedSource .error]

/-- their records -/
def mixedRecords : Datum := .list ((mixed.filterMap Finding.record?).map .table)

def mixedParcel : Parcel Binary64 :=
  ⟨nearby.address, Text.Utf8.encode (Json.compact Text.lowStand mixedRecords).toList, .ofInt 10, .ofInt 1, .int 10⟩

theorem delivered_send_mixed : letI : Interpreter := .usual
    (∀ f ∈ mixed, f.IsSendable) ∧ nearby.parcel mixed = .ok mixedParcel ∧ mixedParcel.Accepted slowPeer 2 ∧
      slowPeer.drainFailure = none ∧ Delivered nearby slowPeer 2 mixed mixedParcel.payload := by
  let : Interpreter := .usual
  have hsendable : ∀ f ∈ mixed, f.IsSendable := by
    simp only [mixed, List.forall_mem_cons, List.not_mem_nil, false_implies, implies_true, and_true]
    exact ⟨⟨⟨rfl, rfl, rfl, rfl, rfl⟩, by decide +kernel⟩, ⟨⟨rfl, rfl, rfl, trivial⟩, by decide⟩,
      ⟨⟨rfl, rfl, rfl, rfl⟩, by decide⟩⟩
  have hparcel : nearby.parcel mixed = .ok mixedParcel := by
    have htimeout : nearby.timeout.toReal = .ok (.ofInt 10) := rfl
    have hpause : nearby.pause.toReal = .ok (.ofInt 1) := rfl
    rw [Destination.parcel, Finding.encode_eq hsendable, ok_bind, htimeout, hpause]
    rfl
  have haccepted : mixedParcel.Accepted slowPeer 2 := by
    refine ⟨fun k hk => ⟨_, if_pos hk, rfl⟩, ?_, rfl⟩
    have hleft : ∀ k < 2, ¬ mixedParcel.left slowPeer (mixedParcel.begins slowPeer k) ≤ 0 := by decide +kernel
    exact hleft
  exact ⟨hsendable, hparcel, haccepted, rfl, delivered_send hsendable hparcel haccepted rfl⟩

end ChangeLint
