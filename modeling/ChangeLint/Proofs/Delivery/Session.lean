/-
Sessions of a receiver.

A `History` runs a receiver and tells its sessions and its payloads apart. It numbers the sessions as they begin and the
payloads as they come in complete, and follows a payload into the result and out of it: `holds` is the number of the
payload that the result came from, and a receive that ends is entered in `endings` with its session and with what the
result holds. The projection is exact (`receiver_step`).

`Inv` ties the socket and the result to each other: a receiver that listens has the result that the first payload of the
session means, and one that does not has no open result. A step keeps it and is `Orderly` (`orderly_step`), so every run
keeps it (`inv_run`).

`orderly_sessions`, for every step of every run with one receive at a time:
- the first payload of a session fixes its result, and what is fixed stays until the next session begins;
- a receive ends with that result as soon as there is one, also when its token is set at the same instant; else it ends as
  cancelled once its token is set; else it waits;
- a receive that ends closes the receiver, which does not listen again before the next start or receive;
- a start while the receiver listens answers the port that the session began with, binds nothing and changes nothing;
- no payload is returned by receives of two sessions.
-/
import ChangeLint.Proofs.Delivery.Step

namespace ChangeLint.Receiver

/-! ## Histories -/

section

variable [Interpreter]

/-- the end of a receive: its session, and the number of the payload that it returned, if it did -/
structure Ending where
  session : Nat
  payload : Option Nat

/-- a receiver, and what has happened to it -/
structure History where
  receiver : Receiver
  /-- the sessions that have begun -/
  sessions : Nat
  /-- the payloads that came in complete while the receiver listened, in order, each with its session -/
  arrivals : List (Nat × List UInt8)
  /-- the number of the payload that the result came from -/
  holds : Option Nat
  /-- the receives that have ended, in order -/
  endings : List Ending

namespace History

/-- a receiver that nothing has happened to -/
def create (host : String) (port : Int) : History := ⟨.create host port, 0, [], none, []⟩

/-- the payloads of the last session -/
def payloads (h : History) : List (List UInt8) := (h.arrivals.filter fun a => a.1 = h.sessions).map (·.2)

/-- a session begins unless one is on; its result holds no payload -/
def begun (h : History) : History :=
  if h.receiver.listening then h else { h with sessions := h.sessions + 1, holds := none }

/-- payloads are entered while the receiver listens; the first of them goes into an open result -/
def entered (h : History) (payloads : List (List UInt8)) : History :=
  if h.receiver.listening then
    { h with
      arrivals := h.arrivals ++ payloads.map fun bytes => (h.sessions, bytes)
      holds := match payloads, h.receiver.result with
        | _ :: _, some .open => some h.arrivals.length
        | _, _ => h.holds }
  else h

/-- what a step does before a receive takes note -/
def occur (h : History) : Step → History
  | .start bound => { h.begun with receiver := (h.receiver.start fun _ => .ok bound).1 }
  | .receive bound token =>
    let r := (h.receiver.start fun _ => .ok bound).1
    { h.begun with receiver := { r with receives := r.receives ++ [.pending token] } }
  | .arrive payloads token => { h.entered payloads with receiver := (h.receiver.takeAll payloads).mark token }

/-- receives take note, and those that end return what the result holds -/
def settled (h : History) : History :=
  let after := h.receiver.settle.1
  { h with
    receiver := after
    endings := h.endings ++
      List.replicate (ended after.receives - ended h.receiver.receives) ⟨h.sessions, h.holds⟩ }

/-- a step -/
def step (h : History) : Step → History
  | .start bound => h.occur (.start bound)
  | s => (h.occur s).settled

def run (h : History) (steps : List Step) : History := steps.foldl step h

end History

/-- **The projection is exact**: a history runs its receiver -/
theorem receiver_step (h : History) (s : Step) : (h.step s).receiver = h.receiver.step s := by
  cases s with
  | start bound => rfl
  | receive bound token => exact (receiveWith_eq h.receiver bound token).symm
  | arrive payloads token => rfl

/-! ## The invariant -/

/-- an entry of a receive that has ended: with a payload it returned what that payload is decoded to, and the payload came
in to the receive's own session; without one it was cancelled -/
def Returned (arrivals : List (Nat × List UInt8)) (x : Option Receive) (e : Ending) : Prop :=
  (∃ p bytes, e.payload = some p ∧ arrivals[p]? = some (e.session, bytes) ∧ x = some (.ended (Finding.decode bytes))) ∨
    (e.payload = none ∧ x = some (.ended (.error (.fault .receiveCancelled))))

/-- the entries of a history agree with its receiver -/
structure Records (h : History) : Prop where
  arrivals_le : ∀ a ∈ h.arrivals, a.1 ≤ h.sessions
  /-- the result of a session came from its first payload -/
  holds : h.receiver.listening = true →
    (h.payloads = [] ∧ h.holds = none) ∨
      ∃ bytes rest p, h.payloads = bytes :: rest ∧ h.holds = some p ∧ h.arrivals[p]? = some (h.sessions, bytes)
  length : h.endings.length = ended h.receiver.receives
  returned : ∀ (i : Nat) (e : Ending), h.endings[i]? = some e → Returned h.arrivals h.receiver.receives[i]? e

/-- a receive is pending: the receiver listens, no payload has come in and the token is not set -/
structure Waits (h : History) (old : List Receive) (token : Option Bool) : Prop where
  listening : h.receiver.listening = true
  receives : h.receiver.receives = old ++ [.pending token]
  old_ended : AllEnded old
  no_payload : h.payloads = []
  not_set : token ≠ some true

structure Inv (h : History) : Prop where
  records : Records h
  /-- the result of a session is what its first payload means -/
  first : h.receiver.listening = true → h.receiver.result = some (Result.ofFirst h.payloads)
  closed : h.receiver.listening = false → h.receiver.result ≠ some .open
  receives : AllEnded h.receiver.receives ∨ ∃ old token, Waits h old token

/-- what a step of a history does -/
structure Orderly (h : History) (s : Step) : Prop where
  /-- the first payload of a session fixes its result, whatever comes in later -/
  first : (h.step s).receiver.listening = true →
    (h.step s).receiver.result = some (Result.ofFirst (h.step s).payloads)
  /-- a fixed result stays, also when the session is over, until the next one begins -/
  kept : (h.step s).sessions = h.sessions → ∀ result, h.receiver.result = some result → result.isFixed = true →
    (h.step s).receiver.result = some result
  /-- a receive comes to what is due when it begins -/
  received : ∀ bound token, s = .receive bound token →
    (h.step s).receiver.receives = h.receiver.receives ++ [Receive.due token (h.step s).payloads]
  /-- and while it is pending, at every instant -/
  waited : ∀ old token payloads set, h.receiver.receives = old ++ [.pending token] → s = .arrive payloads set →
    (h.step s).receiver.receives =
      old ++ [Receive.due (if set then token.map fun _ => true else token) (h.step s).payloads]
  /-- an end is final -/
  final : ∀ (i : Nat) (e : Except Failure (List Finding)), h.receiver.receives[i]? = some (.ended e) →
    (h.step s).receiver.receives[i]? = some (.ended e)
  /-- a receive that ends closes the receiver -/
  closes : h.endings.length < (h.step s).endings.length → (h.step s).receiver.listening = false
  /-- which payloads and tokens do not open again -/
  stays_closed : ∀ payloads set, s = .arrive payloads set → h.receiver.listening = false →
    (h.step s).receiver.listening = false
  /-- a start while the receiver listens observes nothing, so binds nothing, and changes nothing -/
  again : ∀ bound, s = .start bound → h.receiver.listening = true →
    h.receiver.start (fun _ => .ok bound) = (h.receiver, ⟨[], .ok h.receiver.port⟩) ∧ h.step s = h
  /-- a start answers the port -/
  answers : ∀ bound, s = .start bound →
    (h.receiver.start fun _ => .ok bound).2.result = .ok (h.step s).receiver.port
  /-- which is the same throughout a session -/
  port : (h.step s).sessions = h.sessions → (h.step s).receiver.port = h.receiver.port
  /-- the entries of receives that have ended: what each returned came in to its own session -/
  returned : (h.step s).endings.length = ended (h.step s).receiver.receives ∧
    ∀ (i : Nat) (e : Ending), (h.step s).endings[i]? = some e →
      Returned (h.step s).arrivals (h.step s).receiver.receives[i]? e
  /-- no payload is returned by receives of two sessions -/
  once : ∀ e ∈ (h.step s).endings, ∀ f ∈ (h.step s).endings, ∀ p, e.payload = some p → f.payload = some p →
    e.session = f.session

end

variable {h : History} {s : Step} {old : List Receive} {token : Option Bool}

/-! ## What stays -/

/-- what stands behind a receive that is pending has no bearing on what has ended -/
theorem getElem?_append_ended {i : Nat} {e : Except Failure (List Finding)} {rest : List Receive}
    (he : (old ++ [.pending token])[i]? = some (.ended e)) : (old ++ rest)[i]? = some (.ended e) := by
  rcases Nat.lt_or_ge i old.length with hi | hi
  · rw [List.getElem?_append_left hi] at he ⊢
    exact he
  · rw [List.getElem?_append_right hi, List.getElem?_singleton] at he
    split at he <;> cases he

theorem result_stop_ne_open (r : Receiver) : r.stop.1.result ≠ some .open := by
  unfold stop
  cases r.result with
  | none => simp
  | some result => cases result <;> simp

theorem payloads_entered (hlistening : h.receiver.listening = true) (payloads : List (List UInt8)) :
    (h.entered payloads).payloads = h.payloads ++ payloads := by
  unfold History.entered
  rw [if_pos hlistening]
  simp only [History.payloads, List.filter_append, List.map_append, List.filter_map, List.map_map]
  congr 1
  simp [Function.comp_def]

theorem mark_of_allEnded (r : Receiver) (hended : AllEnded r.receives) (set : Bool) : r.mark set = r := by
  cases set with
  | false => rfl
  | true => rw [mark, if_pos rfl, setLast_of_allEnded hended]

theorem History.settled_of_allEnded (hended : AllEnded h.receiver.receives) : h.settled = h := by
  unfold History.settled
  simp only [settle_of_allEnded hended, Nat.sub_self, List.replicate_zero, List.append_nil]

theorem entered_receiver (h : History) (payloads : List (List UInt8)) : (h.entered payloads).receiver = h.receiver := by
  unfold History.entered
  split <;> rfl

theorem entered_sessions (h : History) (payloads : List (List UInt8)) : (h.entered payloads).sessions = h.sessions := by
  unfold History.entered
  split <;> rfl

theorem entered_endings (h : History) (payloads : List (List UInt8)) : (h.entered payloads).endings = h.endings := by
  unfold History.entered
  split <;> rfl

section

variable [Interpreter]

theorem inv_create (host : String) (port : Int) : Inv (.create host port) where
  records := ⟨nofun, nofun, rfl, nofun⟩
  first := nofun
  closed := nofun
  receives := Or.inl nofun

/-- what a receive returned came in to one session only -/
theorem session_eq {arrivals : List (Nat × List UInt8)} {x y : Option Receive} {e f : Ending} {p : Nat}
    (he : Returned arrivals x e) (hf : Returned arrivals y f) (hep : e.payload = some p) (hfp : f.payload = some p) :
    e.session = f.session := by
  rcases he with ⟨q, bytes, heq, hq, -⟩ | ⟨hnone, -⟩
  · rcases hf with ⟨q', bytes', hfq, hq', -⟩ | ⟨hnone, -⟩
    · rw [hep] at heq
      rw [hfp] at hfq
      cases heq
      cases hfq
      rw [hq] at hq'
      exact (Prod.mk.inj (Option.some.inj hq')).1
    · rw [hfp] at hnone
      cases hnone
  · rw [hep] at hnone
    cases hnone

theorem Records.once (hrec : Records h) : ∀ e ∈ h.endings, ∀ f ∈ h.endings, ∀ p, e.payload = some p →
    f.payload = some p → e.session = f.session := by
  intro e he f hf p hep hfp
  obtain ⟨i, hi⟩ := List.mem_iff_getElem?.1 he
  obtain ⟨j, hj⟩ := List.mem_iff_getElem?.1 hf
  exact session_eq (hrec.returned i e hi) (hrec.returned j f hj) hep hfp

/-- what all steps have in common, from one history to the next -/
structure Change (h h' : History) : Prop where
  inv : Inv h'
  kept : h'.sessions = h.sessions → ∀ result, h.receiver.result = some result → result.isFixed = true →
    h'.receiver.result = some result
  final : ∀ (i : Nat) (e : Except Failure (List Finding)), h.receiver.receives[i]? = some (.ended e) →
    h'.receiver.receives[i]? = some (.ended e)
  closes : h.endings.length < h'.endings.length → h'.receiver.listening = false
  port : h'.sessions = h.sessions → h'.receiver.port = h.receiver.port

theorem Change.refl (hinv : Inv h) : Change h h :=
  ⟨hinv, fun _ _ hr _ => hr, fun _ _ he => he, fun hlt => absurd hlt (lt_irrefl _), fun _ => rfl⟩

/-! ## Receives take note -/

/-- a receive that ends at once returns what the result holds -/
theorem Records.returned_due (hrec : Records h) (hlistening : h.receiver.listening = true)
    (hdue : ¬ (Receive.due token h.payloads).isPending = true) :
    Returned h.arrivals (some (Receive.due token h.payloads)) ⟨h.sessions, h.holds⟩ := by
  rcases hrec.holds hlistening with ⟨hnone, hholds⟩ | ⟨bytes, rest, p, hcons, hholds, hp⟩
  · rw [hnone] at hdue ⊢
    have hset : token = some true := by
      by_contra hset
      exact hdue (by simp [Receive.due, hset, Receive.isPending])
    exact Or.inr ⟨hholds, by rw [Receive.due, if_pos hset]⟩
  · exact Or.inl ⟨p, bytes, hholds, hp, by rw [hcons, Receive.due]⟩

/-- the receive that was pending is entered behind the others -/
theorem Records.returned_append (hrec : Records h) (hreceives : h.receiver.receives = old ++ [.pending token])
    (hold : AllEnded old) {x : Receive} {last : Ending} (hx : Returned h.arrivals (some x) last) :
    ∀ (i : Nat) (e : Ending), (h.endings ++ [last])[i]? = some e → Returned h.arrivals (old ++ [x])[i]? e := by
  have hlength : h.endings.length = old.length := by rw [hrec.length, hreceives, ended_append_pending hold]
  intro i e he
  rcases Nat.lt_trichotomy i old.length with hi | hi | hi
  · rw [List.getElem?_append_left (hlength ▸ hi)] at he
    have hreturned := hrec.returned i e he
    rw [hreceives, List.getElem?_append_left hi] at hreturned
    rwa [List.getElem?_append_left hi]
  · subst hi
    rw [← hlength, List.getElem?_concat_length] at he
    cases he
    rwa [List.getElem?_concat_length]
  · rw [List.getElem?_eq_none (by simp; omega)] at he
    cases he

/-- **A pending receive comes to what is due.** It has been entered when it has ended, and then the receiver is closed. -/
theorem settled_due (hrec : Records h) (hlistening : h.receiver.listening = true)
    (hresult : h.receiver.result = some (Result.ofFirst h.payloads))
    (hreceives : h.receiver.receives = old ++ [.pending token]) (hold : AllEnded old) :
    Change h h.settled ∧ h.settled.receiver.receives = old ++ [Receive.due token h.payloads] := by
  have hsettle := settle_due hresult hreceives hold
  have hcount : ended h.receiver.receives = old.length := by rw [hreceives, ended_append_pending hold]
  by_cases hdue : (Receive.due token h.payloads).isPending = true
  · -- nothing is due yet: nothing changes
    obtain ⟨hnone, hset, hpending⟩ := due_of_isPending hdue
    rw [if_pos hdue] at hsettle
    have hsame : h.settled = h := by
      unfold History.settled
      simp only [hsettle, Nat.sub_self, List.replicate_zero, List.append_nil]
    rw [hsame, hpending]
    refine ⟨Change.refl ⟨hrec, fun _ => hresult, fun hoff => ?_, Or.inr ⟨old, token, ?_⟩⟩, hreceives⟩
    · rw [hlistening] at hoff
      cases hoff
    · exact ⟨hlistening, hreceives, hold, hnone, hset⟩
  · -- the receive ends, is entered, and closes the receiver
    rw [if_neg hdue] at hsettle
    have hended : AllEnded (old ++ [Receive.due token h.payloads]) := hold.append_singleton (by simpa using hdue)
    have hone : ended (old ++ [Receive.due token h.payloads]) - ended h.receiver.receives = 1 := by
      rw [ended_eq_length hended, hcount, List.length_append, List.length_singleton, Nat.add_sub_cancel_left]
    have hsettled : h.settled = { h with
        receiver := { h.receiver.stop.1 with receives := old ++ [Receive.due token h.payloads] }
        endings := h.endings ++ [⟨h.sessions, h.holds⟩] } := by
      unfold History.settled
      simp only [hsettle, hone, List.replicate_one]
    have hlength : (h.endings ++ [(⟨h.sessions, h.holds⟩ : Ending)]).length =
        ended (old ++ [Receive.due token h.payloads]) := by
      rw [ended_eq_length hended, List.length_append, List.length_append, hrec.length, hcount]
      rfl
    have hreturned := hrec.returned_append hreceives hold (hrec.returned_due hlistening hdue)
    rw [hsettled]
    refine ⟨⟨⟨⟨hrec.arrivals_le, nofun, hlength, hreturned⟩, nofun, fun _ => result_stop_ne_open _, Or.inl hended⟩,
      fun _ result hr hfixed => result_stop hr hfixed, ?_, fun _ => rfl, fun _ => rfl⟩, rfl⟩
    intro i e he
    rw [hreceives] at he
    exact getElem?_append_ended he

/-! ## Records of a step -/

/-- the entries depend on the receives that have ended only -/
theorem Records.with_receiver (hrec : Records h) {r : Receiver}
    (hlistening : r.listening = true → h.receiver.listening = true)
    (hended : ended r.receives = ended h.receiver.receives)
    (hget : ∀ i < h.endings.length, r.receives[i]? = h.receiver.receives[i]?) : Records { h with receiver := r } where
  arrivals_le := hrec.arrivals_le
  holds := fun hl => hrec.holds (hlistening hl)
  length := hrec.length.trans hended.symm
  returned := fun i e he => by
    rw [hget i (List.getElem?_eq_some_iff.1 he).1]
    exact hrec.returned i e he

/-- entering payloads keeps the entries in order -/
theorem Inv.records_entered (hinv : Inv h) (hlistening : h.receiver.listening = true) (payloads : List (List UInt8)) :
    Records (h.entered payloads) := by
  have hpayloads := payloads_entered hlistening payloads
  have hresult := hinv.first hlistening
  unfold History.entered at hpayloads ⊢
  rw [if_pos hlistening] at hpayloads ⊢
  refine ⟨?_, fun _ => ?_, hinv.records.length, fun i e he => ?_⟩
  · intro a ha
    rcases List.mem_append.1 ha with ha | ha
    · exact hinv.records.arrivals_le a ha
    · obtain ⟨bytes, -, rfl⟩ := List.mem_map.1 ha
      exact le_rfl
  · rw [hpayloads]
    rcases hinv.records.holds hlistening with ⟨hnone, hholds⟩ | ⟨first, rest, p, hcons, hholds, hp⟩
    · -- the result is open, and the first payload that comes in now goes into it
      rw [hnone] at hresult ⊢
      cases payloads with
      | nil => exact Or.inl ⟨rfl, hholds⟩
      | cons bytes payloads =>
        exact Or.inr ⟨bytes, payloads, h.arrivals.length, rfl, by simp only [hresult, Result.ofFirst], by simp⟩
    · refine Or.inr ⟨first, rest ++ payloads, p, by rw [hcons, List.cons_append], ?_, ?_⟩
      · rw [hresult, hcons]
        have hopen := ofDecoded_ne_open (Finding.decode first)
        simp only [hholds, Result.ofFirst]
        split
        · rename_i h1 h2
          exact absurd h1 hopen
        · rfl
      · rw [List.getElem?_append_left (List.getElem?_eq_some_iff.1 hp).1]
        exact hp
  · have hlater : ∀ (q : Nat) a, h.arrivals[q]? = some a →
        (h.arrivals ++ payloads.map fun bytes => (h.sessions, bytes))[q]? = some a := by
      intro q a hq
      rw [List.getElem?_append_left (List.getElem?_eq_some_iff.1 hq).1]
      exact hq
    rcases hinv.records.returned i e he with ⟨q, bytes, heq, hq, hx⟩ | hcancelled
    · exact Or.inl ⟨q, bytes, heq, hlater q _ hq, hx⟩
    · exact Or.inr hcancelled

/-! ## Starts -/

theorem step_start_of_listening (hlistening : h.receiver.listening = true) (bound : Option Int) :
    h.step (.start bound) = h := by
  simp only [History.step, History.occur, History.begun, hlistening, if_true, start_of_listening hlistening]

theorem step_start_of_not_listening (hlistening : h.receiver.listening = false) (bound : Option Int) :
    h.step (.start bound) = { h with
      receiver := { h.receiver with result := some .open, listening := true, port := bound.getD h.receiver.port }
      sessions := h.sessions + 1
      holds := none } := by
  simp only [History.step, History.occur, History.begun, hlistening, (start_of_not_listening hlistening bound).1]
  rfl

/-- a receiver that does not listen has no pending receive -/
theorem Inv.allEnded (hinv : Inv h) (hlistening : h.receiver.listening = false) : AllEnded h.receiver.receives := by
  rcases hinv.receives with hended | ⟨old, token, hwaits⟩
  · exact hended
  · have hon := hwaits.listening
    rw [hlistening] at hon
    cases hon

/-- a new session has no payloads -/
theorem inv_start (hinv : Inv h) (bound : Option Int) : Inv (h.step (.start bound)) := by
  cases hlistening : h.receiver.listening with
  | true => rwa [step_start_of_listening hlistening]
  | false =>
    have hnone : (h.arrivals.filter fun a => a.1 = h.sessions + 1).map (·.2) = [] := by
      rw [List.map_eq_nil_iff, List.filter_eq_nil_iff]
      intro a ha
      have hle := hinv.records.arrivals_le a ha
      simp only [decide_eq_true_eq]
      omega
    rw [step_start_of_not_listening hlistening]
    refine ⟨⟨fun a ha => Nat.le_succ_of_le (hinv.records.arrivals_le a ha), fun _ => Or.inl ⟨hnone, rfl⟩,
      hinv.records.length, hinv.records.returned⟩, fun _ => ?_, nofun, Or.inl (hinv.allEnded hlistening)⟩
    simp only [History.payloads, hnone]
    rfl

theorem change_start (hinv : Inv h) (bound : Option Int) : Change h (h.step (.start bound)) := by
  have hinv' := inv_start hinv bound
  cases hlistening : h.receiver.listening with
  | true =>
    rw [step_start_of_listening hlistening]
    exact Change.refl hinv
  | false =>
    rw [step_start_of_not_listening hlistening] at hinv' ⊢
    exact ⟨hinv', fun hs => absurd hs (Nat.succ_ne_self _), fun _ _ he => he, fun hlt => absurd hlt (lt_irrefl _),
      fun hs => absurd hs (Nat.succ_ne_self _)⟩

/-- after a start the receiver listens, and its receives are as they were -/
theorem listening_start (h : History) (bound : Option Int) :
    (h.step (.start bound)).receiver.listening = true ∧
      (h.step (.start bound)).receiver.receives = h.receiver.receives ∧ (h.step (.start bound)).endings = h.endings := by
  cases hlistening : h.receiver.listening with
  | true =>
    rw [step_start_of_listening hlistening]
    exact ⟨hlistening, rfl, rfl⟩
  | false =>
    rw [step_start_of_not_listening hlistening]
    exact ⟨rfl, rfl, rfl⟩

/-! ## Receives -/

/-- **A receive comes to what is due when it begins** -/
theorem change_receive (hinv : Inv h) (hended : AllEnded h.receiver.receives) (bound token : Option _) :
    Change h (h.step (.receive bound token)) ∧
      (h.step (.receive bound token)).receiver.receives =
        h.receiver.receives ++ [Receive.due token (h.step (.receive bound token)).payloads] := by
  obtain ⟨hlistening, hreceives, hendings⟩ := listening_start h bound
  have hstart := change_start hinv bound
  -- the receive is pending before it takes note
  have hstep : h.step (.receive bound token) = History.settled { h.step (.start bound) with
      receiver := { (h.step (.start bound)).receiver with
        receives := (h.step (.start bound)).receiver.receives ++ [.pending token] } } := rfl
  generalize h.step (.start bound) = begun at hlistening hreceives hendings hstart hstep
  have hended' : AllEnded begun.receiver.receives := hreceives ▸ hended
  have hrec := hstart.inv.records.with_receiver
    (r := { begun.receiver with receives := begun.receiver.receives ++ [.pending token] }) id
    (by rw [ended_append_pending hended', ended_eq_length hended']) fun i hi => by
      refine List.getElem?_append_left ?_
      rwa [hstart.inv.records.length, ended_eq_length hended'] at hi
  obtain ⟨hchange, hdue⟩ := settled_due hrec hlistening (hstart.inv.first hlistening) rfl hended'
  rw [← hstep] at hchange hdue
  refine ⟨⟨hchange.inv, fun hs result hr hfixed => ?_, fun i e he => ?_, fun hlt => ?_, fun hs => ?_⟩, ?_⟩
  · exact hchange.kept (by rw [hstep]; rfl) result (hstart.kept (hs ▸ by rw [hstep]; rfl) result hr hfixed) hfixed
  · exact hchange.final i e (List.getElem?_append_left (List.getElem?_eq_some_iff.1 (hreceives ▸ he)).1 ▸ hreceives ▸ he)
  · exact hchange.closes (by rwa [← hendings] at hlt)
  · exact (hchange.port (by rw [hstep]; rfl)).trans (hstart.port (hs ▸ by rw [hstep]; rfl))
  · rw [hdue, hreceives, hstep]
    rfl

/-! ## Payloads and tokens -/

theorem step_arrive (h : History) (payloads : List (List UInt8)) (set : Bool) :
    h.step (.arrive payloads set) = (h.occur (.arrive payloads set)).settled := rfl

/-- while the receiver does not listen, nothing comes in -/
theorem step_arrive_of_not_listening (hinv : Inv h) (hlistening : h.receiver.listening = false)
    (payloads : List (List UInt8)) (set : Bool) : h.step (.arrive payloads set) = h := by
  have hended := hinv.allEnded hlistening
  have hoccur : h.occur (.arrive payloads set) = h := by
    simp only [History.occur, History.entered, hlistening, Bool.false_eq_true, if_false,
      takeAll_of_ne_open (hinv.closed hlistening), mark_of_allEnded h.receiver hended]
  rw [step_arrive, hoccur, History.settled_of_allEnded hended]

/-- while the receiver listens, the payloads are entered, and the first one of the session has fixed the result -/
theorem occur_arrive (hinv : Inv h) (hlistening : h.receiver.listening = true) {payloads : List (List UInt8)}
    (hreadable : ∀ bytes ∈ payloads, Readable bytes) (set : Bool) :
    h.occur (.arrive payloads set) = { h.entered payloads with
      receiver := ({ h.receiver with result := some (Result.ofFirst (h.entered payloads).payloads) } : Receiver).mark set } := by
  rw [History.occur, takeAll_eq (hinv.first hlistening) hreadable, payloads_entered hlistening]

theorem ofFirst_append {before : List (List UInt8)} (hfixed : (Result.ofFirst before).isFixed = true)
    (payloads : List (List UInt8)) : Result.ofFirst (before ++ payloads) = Result.ofFirst before := by
  cases before with
  | nil => cases hfixed
  | cons bytes before => rfl

/-- no receive is pending: the payloads are entered, and that is all -/
theorem change_arrive_of_allEnded (hinv : Inv h) (hlistening : h.receiver.listening = true)
    (hended : AllEnded h.receiver.receives) {payloads : List (List UInt8)}
    (hreadable : ∀ bytes ∈ payloads, Readable bytes) (set : Bool) : Change h (h.step (.arrive payloads set)) := by
  have hrec := hinv.records_entered hlistening payloads
  have hsessions := entered_sessions h payloads
  have hreceiver := entered_receiver h payloads
  have hpayloads := payloads_entered hlistening payloads
  have hendings := entered_endings h payloads
  have hstep : h.step (.arrive payloads set) = { h.entered payloads with
      receiver := { h.receiver with result := some (Result.ofFirst (h.entered payloads).payloads) } } := by
    have hmark := mark_of_allEnded { h.receiver with result := some (Result.ofFirst (h.entered payloads).payloads) }
      hended set
    rw [step_arrive, occur_arrive hinv hlistening hreadable]
    simp only [hmark]
    exact History.settled_of_allEnded hended
  rw [hstep]
  generalize h.entered payloads = mid at hrec hsessions hreceiver hpayloads hendings
  refine ⟨⟨hrec.with_receiver (fun _ => hreceiver ▸ hlistening) (by rw [hreceiver]) (fun i _ => by rw [hreceiver]),
    fun _ => rfl, fun hoff => ?_, Or.inl hended⟩, fun _ result hr hfixed => ?_, fun _ _ he => he, fun hlt => ?_, fun _ => rfl⟩
  · rw [hlistening] at hoff
    cases hoff
  · obtain rfl := Option.some.inj ((hinv.first hlistening).symm.trans hr)
    rw [hpayloads, ofFirst_append hfixed]
  · rw [hendings] at hlt
    exact absurd hlt (lt_irrefl _)

/-- a receive is pending: it takes note of the payloads and of its token -/
theorem change_arrive_of_waits (hinv : Inv h) (hwaits : Waits h old token) {payloads : List (List UInt8)}
    (hreadable : ∀ bytes ∈ payloads, Readable bytes) (set : Bool) :
    Change h (h.step (.arrive payloads set)) ∧
      (h.step (.arrive payloads set)).receiver.receives =
        old ++ [Receive.due (if set then token.map fun _ => true else token) (h.step (.arrive payloads set)).payloads] := by
  have hlistening := hwaits.listening
  have hrec := hinv.records_entered hlistening payloads
  have hsessions := entered_sessions h payloads
  have hreceiver := entered_receiver h payloads
  have hendings := entered_endings h payloads
  have hmark : ∀ r : Receiver, r.receives = old ++ [.pending token] →
      r.mark set = { r with receives := old ++ [.pending (if set then token.map fun _ => true else token)] } := by
    intro r hr
    cases set with
    | false => rw [if_neg Bool.false_ne_true, ← hr]; rfl
    | true => rw [mark, if_pos rfl, if_pos rfl, hr, setLast_append_pending hwaits.old_ended]
  have hstep : h.step (.arrive payloads set) = History.settled { h.entered payloads with
      receiver := { h.receiver with
        result := some (Result.ofFirst (h.entered payloads).payloads)
        receives := old ++ [.pending (if set then token.map fun _ => true else token)] } } := by
    have hnote := hmark { h.receiver with result := some (Result.ofFirst (h.entered payloads).payloads) } hwaits.receives
    rw [step_arrive, occur_arrive hinv hlistening hreadable]
    simp only [hnote]
  generalize h.entered payloads = mid at hrec hsessions hreceiver hendings hstep
  generalize (if set then token.map fun _ => true else token) = token' at hstep
  have hrec' := hrec.with_receiver
    (r := { h.receiver with
        result := some (Result.ofFirst mid.payloads)
        receives := old ++ [.pending token'] }) (fun _ => hreceiver ▸ hlistening)
    (by rw [hreceiver, hwaits.receives, ended_append_pending hwaits.old_ended, ended_append_pending hwaits.old_ended])
    fun i hi => by
      rw [hrec.length, hreceiver, hwaits.receives, ended_append_pending hwaits.old_ended] at hi
      rw [hreceiver, hwaits.receives, List.getElem?_append_left hi, List.getElem?_append_left hi]
  obtain ⟨hchange, hdue⟩ := settled_due hrec' hlistening rfl rfl hwaits.old_ended
  rw [← hstep] at hchange hdue
  refine ⟨⟨hchange.inv, fun _ result hr hfixed => ?_, fun i e he => ?_, fun hlt => ?_, fun hs => ?_⟩, ?_⟩
  · -- the result was open
    rw [hinv.first hlistening, hwaits.no_payload] at hr
    obtain rfl := Option.some.inj hr
    cases hfixed
  · exact hchange.final i e (getElem?_append_ended (hwaits.receives ▸ he))
  · exact hchange.closes (by rwa [← hendings] at hlt)
  · exact hchange.port (by rw [hstep]; rfl)
  · rw [hdue, hstep]
    rfl

/-! ## Steps and runs -/

theorem change_step (hinv : Inv h) (hallowed : Allowed h.receiver s) : Change h (h.step s) := by
  cases s with
  | start bound => exact change_start hinv bound
  | receive bound token => exact (change_receive hinv hallowed bound token).1
  | arrive payloads set =>
    cases hlistening : h.receiver.listening with
    | false =>
      rw [step_arrive_of_not_listening hinv hlistening]
      exact Change.refl hinv
    | true =>
      rcases hinv.receives with hended | ⟨old, token, hwaits⟩
      · exact change_arrive_of_allEnded hinv hlistening hended hallowed set
      · exact (change_arrive_of_waits hinv hwaits hallowed set).1

/-- the one receive that is pending is the one that waits -/
theorem Inv.waits (hinv : Inv h) (hreceives : h.receiver.receives = old ++ [.pending token]) : Waits h old token := by
  rcases hinv.receives with hended | ⟨old', token', hwaits⟩
  · cases hended (.pending token) (by rw [hreceives]; simp)
  · obtain ⟨rfl, htoken⟩ := List.append_inj' (hreceives.symm.trans hwaits.receives) rfl
    cases htoken
    exact hwaits

/-- **A step keeps the order** -/
theorem orderly_step (hinv : Inv h) (hallowed : Allowed h.receiver s) : Orderly h s := by
  have hchange := change_step hinv hallowed
  refine ⟨hchange.inv.first, hchange.kept, ?_, ?_, hchange.final, hchange.closes, ?_, ?_, ?_, hchange.port,
    ⟨hchange.inv.records.length, hchange.inv.records.returned⟩, hchange.inv.records.once⟩
  · rintro bound token rfl
    exact (change_receive hinv hallowed bound token).2
  · rintro old token payloads set hreceives rfl
    exact (change_arrive_of_waits hinv (hinv.waits hreceives) hallowed set).2
  · rintro payloads set rfl hlistening
    rwa [step_arrive_of_not_listening hinv hlistening]
  · rintro bound rfl hlistening
    exact ⟨start_of_listening hlistening _, step_start_of_listening hlistening bound⟩
  · rintro bound rfl
    exact result_start h.receiver bound

theorem inv_run (steps : List Step) (hinv : Inv h) (hlegal : Legal h.receiver steps) : Inv (h.run steps) := by
  induction steps generalizing h with
  | nil => exact hinv
  | cons s steps ih => exact ih (change_step hinv hlegal.1).inv (receiver_step h s ▸ hlegal.2)

/-- a history runs its receiver -/
theorem receiver_run (h : History) (steps : List Step) : (h.run steps).receiver = steps.foldl step h.receiver := by
  induction steps generalizing h with
  | nil => rfl
  | cons s steps ih => rw [History.run, List.foldl_cons, List.foldl_cons, ← receiver_step]; exact ih (h.step s)

theorem legal_append {r : Receiver} {before after : List Step} (h : Legal r (before ++ after)) :
    Legal r before ∧ Legal (before.foldl step r) after := by
  induction before generalizing r with
  | nil => exact ⟨trivial, h⟩
  | cons s before ih =>
    obtain ⟨hbefore, hafter⟩ := ih h.2
    exact ⟨⟨h.1, hbefore⟩, hafter⟩

/-- **Every step of every run keeps the order of the sessions** -/
theorem orderly_sessions (host : String) (port : Int) (steps : List Step) (s : Step)
    (hlegal : Legal (create host port) (steps ++ [s])) : Orderly ((History.create host port).run steps) s := by
  obtain ⟨hbefore, hlast, -⟩ := legal_append hlegal
  exact orderly_step (inv_run steps (inv_create host port) hbefore) (by rwa [receiver_run])

end

/-- a session that a token ends, then one in which two payloads and the token come in at the same instant -/
def raceSteps : List Step :=
  [.receive (some 50001) (some false), .arrive [] true, .start (some 50002), .receive none (some false)]

/-- no findings, in the form in which they are sent -/
def noFindings : List UInt8 := [0x5b, 0x5d]

theorem orderly_sessions_race : letI : Interpreter := .usual
    Legal (create "127.0.0.1" 0) (raceSteps ++ [.arrive [noFindings, [0xff]] true]) ∧
      Orderly ((History.create "127.0.0.1" 0).run raceSteps) (.arrive [noFindings, [0xff]] true) := by
  let : Interpreter := .usual
  have hlegal : Legal (create "127.0.0.1" 0) (raceSteps ++ [.arrive [noFindings, [0xff]] true]) := by decide +kernel
  exact ⟨hlegal, orderly_sessions "127.0.0.1" 0 raceSteps _ hlegal⟩

end ChangeLint.Receiver
