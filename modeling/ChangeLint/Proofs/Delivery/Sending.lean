/-
A sender that is accepted in time.

The times at which attempts begin follow from the parcel and the other end (`Parcel.begins`): each pause is the one that was
chosen, or what is left of the patience. A sender is accepted after some refused attempts (`Parcel.Accepted`) if each of these
was refused by the system and left some time, and the next one is not refused.

Results:
- `attemptsFrom_of_refused`, `attemptsFrom_of_accepted`: what one attempt comes to;
- `signals_attemptsFrom`, `signals_send`: sending that ends well has written its payload, once;
- `sends_send`: a sender that is accepted in time does so.
-/
import ChangeLint.Delivery.Sender
import ChangeLint.Proofs.Act
import ChangeLint.Proofs.Except

namespace ChangeLint

variable {τ : Type} [Add τ] [Sub τ] [OfNat τ 0] [LT τ] [LE τ] [DecidableLT τ] [DecidableLE τ]
  {p : Parcel τ} {peer : Peer τ} {n k limit : Nat} {now : τ} {f : Failure}

namespace Parcel

/-- when the patience of a sender ends -/
def deadline (p : Parcel τ) : τ := 0 + p.timeout

/-- what is left of it after an attempt that began at a time -/
def left (p : Parcel τ) (peer : Peer τ) (now : τ) : τ := p.deadline - (now + peer.cost)

/-- when an attempt begins, if all before it were refused -/
def begins (p : Parcel τ) (peer : Peer τ) : Nat → τ
  | 0 => 0
  | n + 1 => p.begins peer n + peer.cost + p.pauseWithin (p.left peer (p.begins peer n))

/-- a sender is accepted after some attempts: the system refused these, each of them left some time, and the next one is not
refused -/
structure Accepted (p : Parcel τ) (peer : Peer τ) (n : Nat) : Prop where
  refused : ∀ k < n, ∃ f, peer.refusal k (p.begins peer k) = some f ∧ f.isSystem = true
  inTime : ∀ k < n, ¬ p.left peer (p.begins peer k) ≤ 0
  accepted : peer.refusal n (p.begins peer n) = none

end Parcel

/-- the steps on a connection on which a payload is written -/
def written (payload : List UInt8) (takesEnd : Bool) : List Signal :=
  [.write payload, .drain] ++ (if takesEnd then [.endOfFile] else []) ++ [.close, .closed]

theorem sent_written (payload : List UInt8) (takesEnd : Bool) : Signal.sent (written payload takesEnd) = payload := by
  cases takesEnd <;> simp [written, Signal.sent, Signal.payload]

/-- sending that ended well after some attempts, with the payload written once -/
structure Sends (s : Sending τ) (attempts : Nat) (payload : List UInt8) (takesEnd : Bool) : Prop where
  ending : s.ending = some (.ok ())
  attempts : s.attempts = attempts
  signals : s.act.signals = written payload takesEnd

namespace Parcel

/-! ## One attempt -/

/-- what an attempt begins with -/
def trying (p : Parcel τ) : List (Sending.Step τ) :=
  [.event (.note ⟨.debug, "Trying to send findings to " ++ p.address⟩), .attempt]

theorem attemptsFrom_of_accepted (h : peer.refusal n now = none) (limit : Nat) :
    p.attemptsFrom peer p.deadline (limit + 1) n now =
      ⟨p.trying ++ (p.transmit peer).trace.map .event, some (p.transmit peer).result⟩ := by
  simp only [attemptsFrom, h]
  rfl

theorem attemptsFrom_of_refused (h : peer.refusal n now = some f) (hsystem : f.isSystem = true)
    (hleft : ¬ p.left peer now ≤ 0) (limit : Nat) :
    p.attemptsFrom peer p.deadline (limit + 1) n now =
      ⟨p.trying ++ .pause (p.pauseWithin (p.left peer now)) ::
          (p.attemptsFrom peer p.deadline limit (n + 1) (now + peer.cost + p.pauseWithin (p.left peer now))).steps,
        (p.attemptsFrom peer p.deadline limit (n + 1) (now + peer.cost + p.pauseWithin (p.left peer now))).ending⟩ := by
  have hremaining : ¬ p.deadline - (now + peer.cost) ≤ 0 := hleft
  simp only [attemptsFrom, h, hsystem, if_true, hremaining, if_false]
  rfl

omit [Add τ] [Sub τ] [OfNat τ 0] [LT τ] [LE τ] [DecidableLT τ] [DecidableLE τ] in
/-- a payload that drains is written, and nothing else -/
theorem transmit_eq (hdrain : peer.drainFailure = none) :
    (p.transmit peer).result = .ok () ∧ (p.transmit peer).signals = written p.payload peer.takesEnd := by
  unfold transmit
  rw [hdrain]
  cases peer.takesEnd <;> exact ⟨rfl, rfl⟩

omit [Add τ] [Sub τ] [OfNat τ 0] [LT τ] [LE τ] [DecidableLT τ] [DecidableLE τ] in
/-- what is transmitted well drains -/
theorem drains_of_transmit (h : (p.transmit peer).result = .ok ()) : peer.drainFailure = none := by
  cases hdrain : peer.drainFailure with
  | none => rfl
  | some f =>
    unfold transmit at h
    rw [hdrain] at h
    cases h

/-! ## All attempts -/

/-- **Sending that ends well has written its payload**, once, however many attempts it took -/
theorem signals_attemptsFrom (h : (p.attemptsFrom peer p.deadline limit n now).ending = some (.ok ())) :
    (p.attemptsFrom peer p.deadline limit n now).act.signals = written p.payload peer.takesEnd := by
  induction limit generalizing n now with
  | zero => cases h
  | succ limit ih =>
    cases hrefusal : peer.refusal n now with
    | none =>
      rw [attemptsFrom_of_accepted hrefusal] at h ⊢
      rw [← (transmit_eq (drains_of_transmit (Option.some.inj h))).2]
      simp [Sending.act, Sending.events, Act.signals, trying, List.filterMap_map, List.filterMap_cons, Event.signal?]
    | some f =>
      by_cases hsystem : f.isSystem = true
      · by_cases hleft : p.left peer now ≤ 0
        · have hremaining : p.deadline - (now + peer.cost) ≤ 0 := hleft
          simp [attemptsFrom, hrefusal, hsystem, hremaining] at h
        · rw [attemptsFrom_of_refused hrefusal hsystem hleft] at h ⊢
          exact ih h
      · simp [attemptsFrom, hrefusal, hsystem] at h

/-- a sender that is accepted in time ends well, after as many attempts as that took -/
theorem ending_attemptsFrom (h : p.Accepted peer n) (hdrain : peer.drainFailure = none) (hk : k ≤ n) (hlimit : n < limit + k) :
    (p.attemptsFrom peer p.deadline limit k (p.begins peer k)).ending = some (.ok ()) ∧
      (p.attemptsFrom peer p.deadline limit k (p.begins peer k)).attempts = n + 1 - k := by
  induction limit generalizing k with
  | zero => omega
  | succ limit ih =>
    rcases Nat.lt_or_eq_of_le hk with hlt | rfl
    · obtain ⟨f, hf, hsystem⟩ := h.refused k hlt
      obtain ⟨hending, hattempts⟩ := @ih (k + 1) (by omega) (by omega)
      rw [attemptsFrom_of_refused hf hsystem (h.inTime k hlt)]
      refine ⟨hending, ?_⟩
      have hrest : (p.attemptsFrom peer p.deadline limit (k + 1) (p.begins peer (k + 1))).attempts + 1 = n + 1 - k := by
        rw [hattempts]
        omega
      rw [← hrest]
      simp [Sending.attempts, trying, begins]
    · rw [attemptsFrom_of_accepted h.accepted]
      refine ⟨congrArg some (transmit_eq hdrain).1, ?_⟩
      simp [Sending.attempts, trying, List.countP_map, Function.comp_def]

/-- **A sender that is accepted in time** writes its payload, once, and ends well -/
theorem sends_send (h : p.Accepted peer n) (hdrain : peer.drainFailure = none) (hlimit : n < limit) :
    Sends (p.send peer limit) (n + 1) p.payload peer.takesEnd := by
  obtain ⟨hending, hattempts⟩ := ending_attemptsFrom h hdrain (Nat.zero_le n) hlimit
  exact ⟨hending, hattempts, signals_attemptsFrom hending⟩

end Parcel

namespace Destination

variable [Interpreter]

theorem payload_of_parcel {d : Destination} {fs : List Finding} {p : Parcel Binary64} (h : d.parcel fs = .ok p) :
    Finding.encode fs = .ok p.payload := by
  unfold parcel at h
  obtain ⟨payload, hpayload, h⟩ := bind_eq_ok h
  obtain ⟨timeout, -, h⟩ := bind_eq_ok h
  obtain ⟨pause, -, h⟩ := bind_eq_ok h
  cases h
  exact hpayload

/-- the same for findings, by where they are sent to -/
theorem sends_send {d : Destination} {peer : Peer Binary64} {fs : List Finding} {p : Parcel Binary64}
    (hparcel : d.parcel fs = .ok p) (h : p.Accepted peer n) (hdrain : peer.drainFailure = none) :
    Sends (d.send peer (some n) fs) (n + 1) p.payload peer.takesEnd := by
  simp only [send, hparcel]
  exact Parcel.sends_send h hdrain (Nat.lt_succ_self n)

/-- **Findings that are sent are written**, once, whoever listens and after however many refusals -/
theorem signals_send {d : Destination} {peer : Peer Binary64} {refusals : Option Nat} {fs : List Finding}
    (h : (d.send peer refusals fs).act.result = .ok ()) :
    ∃ payload, Finding.encode fs = .ok payload ∧ (d.send peer refusals fs).act.signals = written payload peer.takesEnd := by
  have hending : (d.send peer refusals fs).ending = some (.ok ()) := by
    cases hend : (d.send peer refusals fs).ending with
    | none =>
      rw [Sending.act, hend] at h
      cases h
    | some e =>
      rw [Sending.act, hend] at h
      exact congrArg some h
  unfold send at hending ⊢
  cases hparcel : d.parcel fs with
  | error f =>
    rw [hparcel] at hending
    cases hending
  | ok p =>
    rw [hparcel] at hending
    exact ⟨p.payload, payload_of_parcel hparcel, Parcel.signals_attemptsFrom hending⟩

end Destination

end ChangeLint
