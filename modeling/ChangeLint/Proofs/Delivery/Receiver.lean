/-
What a payload does to a receiver.

Once the result of a session is fixed, every pending receive ends with it and the receiver keeps it (`resolves_settle`). A
payload that comes in complete while the result is open fixes it, with its findings or with the reason why it is undecodable;
only a payload with too many digits in a row, or nested too deep for the stack, may do neither. It fails on its connection, and
the receiver is as if nothing had come in (`payload_resolves`); its receives wait on (`longNumber_unresolved`).
-/
import ChangeLint.Delivery.Receiver
import ChangeLint.Interpreter.Usual
import ChangeLint.Proofs.Finding.Payload

namespace ChangeLint.Receiver

/-- a receiver has come to a result: it keeps it, and every receive that was pending has ended with it -/
structure Resolves (r : Receiver) (result : Result) (after : Receiver) : Prop where
  kept : after.result = some result
  receives : after.receives = r.receives.map (Receive.settle (some result))
  ended : ∀ x ∈ after.receives, x.isPending = false

/-- what a payload that comes in complete does to a receiver whose result is open -/
inductive Takes [Interpreter] (bytes : List UInt8) (r : Receiver) : Receiver × Act Unit → Prop
  | found {fs : List Finding} {after : Receiver} {x : Act Unit} (hdecode : Finding.decode bytes = .ok fs)
    (hafter : Resolves r (.found fs) after) (hx : x.result = .ok ()) : Takes bytes r (after, x)
  | refused {reason : String} {size : Option Nat} {after : Receiver} {x : Act Unit}
    (hdecode : Finding.decode bytes = .error (.fault (.undecodable reason size)))
    (hafter : Resolves r (.refused (.fault (.undecodable reason size))) after) (hx : x.result = .ok ()) :
    Takes bytes r (after, x)
  | tooLong {cs ds : List Char} {x : Act Unit} (hdecode : Finding.decode bytes = .error (.tooLong (.reading ds.length)))
    (hcs : Text.Utf8.decode bytes = .ok cs) (hds : ds <:+: cs) (hlong : Json.LongRun ds)
    (hx : x.result = .error (.tooLong (.reading ds.length))) : Takes bytes r (r.settle.1, x)
  | exhausted {cs : List Char} {m : String} {x : Act Unit} (hdecode : Finding.decode bytes = .error (.exhausted m))
    (hcs : Text.Utf8.decode bytes = .ok cs) (hdeep : Interpreter.overrun? .payload cs = some m)
    (hx : x.result = .error (.exhausted m)) : Takes bytes r (r.settle.1, x)

variable {r : Receiver} {result : Result} {bytes : List UInt8}

/-! ## Receives with a fixed result -/

theorem exists_ending? (h : result.isFixed) : ∃ e, result.ending? = some e := by
  cases result with
  | «open» => cases h
  | _ => exact ⟨_, rfl⟩

theorem isPending_settle (h : result.isFixed) (x : Receive) : (x.settle (some result)).isPending = false := by
  obtain ⟨e, he⟩ := exists_ending? h
  cases x with
  | ended r => rfl
  | pending token => simp [Receive.settle, he, Receive.isPending]

theorem settle_eq_self {x : Receive} (h : x.isPending = false) (result : Option Result) : x.settle result = x := by
  cases x with
  | ended r => rfl
  | pending token => cases h

/-- stopping keeps a fixed result -/
theorem result_stop (hresult : r.result = some result) (h : result.isFixed) : r.stop.1.result = some result := by
  cases result with
  | «open» => cases h
  | _ => simp only [stop, hresult]

/-- **A fixed result ends every pending receive** -/
theorem resolves_settle (hresult : r.result = some result) (h : result.isFixed) : Resolves r result r.settle.1 := by
  have hended : ∀ x ∈ r.receives.map (Receive.settle (some result)), x.isPending = false := by
    intro x hx
    obtain ⟨y, -, rfl⟩ := List.mem_map.1 hx
    exact isPending_settle h y
  have hcount : (r.receives.map (Receive.settle (some result))).countP Receive.isPending = 0 := by
    rw [List.countP_eq_zero]
    exact fun x hx => by simp [hended x hx]
  by_cases hpending : 0 < r.receives.countP Receive.isPending
  · have hagain : (r.receives.map (Receive.settle (some result))).map (Receive.settle (some result)) =
        r.receives.map (Receive.settle (some result)) := by
      rw [List.map_congr_left fun x hx => settle_eq_self (hended x hx) (some result), List.map_id']
    have hsettle : r.settle.1 = { r.stop.1 with receives := r.receives.map (Receive.settle (some result)) } := by
      simp only [settle, hresult, hcount, if_pos hpending, result_stop hresult h, hagain]
    rw [hsettle]
    exact ⟨result_stop hresult h, rfl, hended⟩
  · have hsettle : r.settle.1 = r := by
      simp only [settle, hresult, hcount, if_neg hpending]
    have hnone : ∀ x ∈ r.receives, x.isPending = false := by
      simpa [List.countP_eq_zero] using hpending
    rw [hsettle]
    refine ⟨hresult, ?_, hnone⟩
    rw [List.map_congr_left fun x hx => settle_eq_self (hnone x hx) (some result), List.map_id']

/-- a receiver that comes to a result ends every pending receive with it -/
theorem resolves_of_isFixed (r : Receiver) (h : result.isFixed) :
    Resolves r result ({ r with result := some result } : Receiver).settle.1 := by
  obtain ⟨hkept, hreceives, hended⟩ := @resolves_settle { r with result := some result } result rfl h
  exact ⟨hkept, hreceives, hended⟩

/-! ## Payloads -/

section

variable [Interpreter]

theorem complete_of_ok (hopen : r.result = some .open) (h : Result.ofPayload bytes = .ok result) :
    r.complete (.ok bytes) = settled ({ r with result := some result }, ⟨[.signal .close], .ok ()⟩) := by
  simp only [complete, take, hopen, h]

theorem complete_of_error {f : Failure} (hopen : r.result = some .open) (h : Result.ofPayload bytes = .error f) :
    r.complete (.ok bytes) = settled (r, ⟨[.signal .close], .error f⟩) := by
  simp only [complete, take, hopen, h]

theorem takes_complete (hopen : r.result = some .open) : Takes bytes r (r.complete (.ok bytes)) := by
  have hdecodes := Finding.decodes_decode bytes
  generalize hdecode : Finding.decode bytes = decoded at hdecodes
  cases hdecodes with
  | found fs =>
    rw [complete_of_ok hopen (by rw [Result.ofPayload, hdecode])]
    exact .found hdecode (resolves_of_isFixed r rfl) rfl
  | undecodable reason size =>
    rw [complete_of_ok hopen (by rw [Result.ofPayload, hdecode])]
    exact .refused hdecode (resolves_of_isFixed r rfl) rfl
  | tooLong hcs hds hlong =>
    rw [complete_of_error hopen (by rw [Result.ofPayload, hdecode])]
    exact .tooLong hdecode hcs hds hlong rfl
  | exhausted hcs hdeep =>
    rw [complete_of_error hopen (by rw [Result.ofPayload, hdecode])]
    exact .exhausted hdecode hcs hdeep rfl

/-- **A payload resolves an open result**, unless it holds too many digits in a row or is nested too deep -/
theorem payload_resolves (bytes : List UInt8) (hopen : r.result = some .open) :
    Finding.Decodes bytes (Finding.decode bytes) ∧ Takes bytes r (r.complete (.ok bytes)) :=
  ⟨Finding.decodes_decode bytes, takes_complete hopen⟩

end

/-- a receiver that listens, with one pending receive -/
def waiting : Receiver := ⟨"127.0.0.1", 50001, true, some .open, [.pending none]⟩

/-- a byte that begins no character -/
theorem payload_resolves_badByte : letI : Interpreter := .usual
    waiting.result = some .open ∧
      Finding.Decodes [0xff] (Finding.decode [0xff]) ∧ Takes [0xff] waiting (waiting.complete (.ok [0xff])) := by
  let : Interpreter := .usual
  exact ⟨rfl, payload_resolves [0xff] rfl⟩

/-- one digit more than an integer may have -/
def longNumber : List UInt8 := Text.Utf8.encode (List.replicate 4301 '1')

/-- **A long number resolves nothing**: it is refused by another failure, and the receive waits on -/
theorem longNumber_unresolved : letI : Interpreter := .usual
    Finding.decode longNumber = .error (.tooLong (.reading 4301)) ∧
      (waiting.complete (.ok longNumber)).1.result = some .open ∧
      (waiting.complete (.ok longNumber)).1.receives = [.pending none] := by
  let : Interpreter := .usual
  have hrun : Json.LongRun (List.replicate 4301 '1') := by
    refine ⟨fun c hc => ?_, by rw [List.length_replicate]; decide⟩
    rw [List.eq_of_mem_replicate hc]
    decide
  have hdecode : Finding.decode longNumber = .error (.tooLong (.reading 4301)) := by
    have h := Finding.decode_longRun hrun (by rw [List.head?_replicate]; decide)
    rwa [List.length_replicate] at h
  have hcomplete := @complete_of_error waiting longNumber _ _ rfl (by rw [Result.ofPayload, hdecode])
  exact ⟨hdecode, by rw [hcomplete]; rfl, by rw [hcomplete]; rfl⟩

end ChangeLint.Receiver
