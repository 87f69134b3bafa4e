/-
Connections that outlive their session.

A receiver accepts connections while it listens, and reads each of them to its end, however long that takes. `Traffic` runs
a receiver with its connections: it numbers the sessions as they begin, keeps the session in which each open connection was
accepted, and follows a payload from its connection into the result (`source`) and out of it: a receive that ends with a
payload is entered in `returned` with its own session and with the one of the connection. The receiver's own steps are
taken as they are.

A connection is late when a later session has begun before it comes to its end.

Results, for every run (`returns_run`):
- no receive returns the payload of another session's connection, if every late connection finds the result fixed;
- nor does one if a session begins only when all connections have been read (`quiet_of_drained`): so it is where the end
  of a session waits for the connections that are open, and not only for the listener;
- but a late connection that finds it open resolves the receives of the session at hand (`late_payload_returned`).
-/
import ChangeLint.Proofs.Delivery.Session

namespace ChangeLint.Receiver

/-- a receiver with its connections -/
structure Traffic where
  receiver : Receiver
  /-- the sessions that have begun -/
  sessions : Nat
  /-- for each connection the session in which it was accepted, until it has been read to its end -/
  connections : List (Option Nat)
  /-- the session of the connection that the result came from -/
  source : Option Nat
  /-- for each receive that has ended with a payload its session and that of the connection -/
  returned : List (Nat × Nat)

namespace Traffic

/-- what happens to a receiver and its connections -/
inductive Move
  | start (bind : Binding)
  | receive (bind : Binding) (token : Option Bool)
  | cancel
  | close
  /-- a connection is opened; it is accepted if the receiver listens -/
  | connect
  /-- a connection has been read to its end -/
  | complete (connection : Nat) (reading : Reading)

/-- nothing has happened yet -/
def create (host : String) (port : Int) : Traffic := ⟨.create host port, 0, [], none, []⟩

/-- a session begins unless one is on -/
def begun (t : Traffic) : Traffic :=
  if t.receiver.listening then t else { t with sessions := t.sessions + 1, source := none }

/-- the receiver has taken a step, and receives that ended returned what the result holds -/
def after (t : Traffic) (r : Receiver) : Traffic :=
  { t with
    receiver := r
    returned := t.returned ++ match t.source with
      | none => []
      | some s => List.replicate (ended r.receives - ended t.receiver.receives) (t.sessions, s) }

/-- a connection is open no longer -/
def read (t : Traffic) (k : Nat) : Traffic := { t with connections := t.connections.set k none }

section

variable [Interpreter]

/-- a connection of a session has been read to its end: its payload goes into an open result -/
def filled (t : Traffic) (session : Nat) (reading : Reading) : Traffic :=
  match t.receiver.result, reading.bind Result.ofPayload with
  | some .open, .ok _ => { t with source := some session }
  | _, _ => t

def step (t : Traffic) : Move → Traffic
  | .start bind => t.begun.after (t.receiver.start bind).1
  | .receive bind token => t.begun.after (t.receiver.receiveWith bind token).1
  | .cancel => t.after t.receiver.cancel.1
  | .close => t.after t.receiver.close.1
  | .connect => if t.receiver.listening then { t with connections := t.connections ++ [some t.sessions] } else t
  | .complete k reading =>
    match t.connections[k]? with
    | some (some s) => ((t.read k).filled s reading).after (t.receiver.complete reading).1
    | _ => t

def run (t : Traffic) (moves : List Move) : Traffic := moves.foldl step t

/-- a move completes a connection of an earlier session -/
def IsLate (t : Traffic) (m : Move) : Prop :=
  ∃ k reading s, m = .complete k reading ∧ t.connections[k]? = some (some s) ∧ s < t.sessions

/-- every late connection finds the result fixed -/
def Quiet (t : Traffic) : List Move → Prop
  | [] => True
  | m :: ms => (t.IsLate m → t.receiver.result ≠ some .open) ∧ Quiet (t.step m) ms

/-- no session begins while a connection is open -/
def Drained (t : Traffic) : List Move → Prop
  | [] => True
  | m :: ms => (t.sessions < (t.step m).sessions → ∀ s, some s ∉ t.connections) ∧ Drained (t.step m) ms

end

/-- every open connection was accepted in the session at hand -/
def Current (t : Traffic) : Prop := ∀ s, some s ∈ t.connections → s = t.sessions

/-- receives have returned payloads of their own session only -/
structure Apart (t : Traffic) : Prop where
  connections : ∀ s, some s ∈ t.connections → s ≤ t.sessions
  source : ∀ s ∈ t.source, s = t.sessions
  returned : ∀ e ∈ t.returned, e.1 = e.2

variable {t : Traffic} {m : Move} {moves : List Move} {k s : Nat} {reading : Reading} {bytes : List UInt8}

theorem mem_of_mem_read (h : some s ∈ (t.read k).connections) : some s ∈ t.connections := by
  rcases List.mem_or_eq_of_mem_set h with h | h
  · exact h
  · cases h

theorem mem_or_eq_of_mem_connect (h : some s ∈ t.connections ++ [some t.sessions]) :
    some s ∈ t.connections ∨ s = t.sessions := by
  rcases List.mem_append.1 h with h | h
  · exact .inl h
  · exact .inr (Option.some.inj (List.mem_singleton.1 h))

theorem apart_create (host : String) (port : Int) : Apart (create host port) := ⟨nofun, nofun, nofun⟩

theorem Apart.begun (h : Apart t) : Apart t.begun := by
  unfold Traffic.begun
  split
  · exact h
  · exact ⟨fun s hs => Nat.le_succ_of_le (h.connections s hs), nofun, h.returned⟩

theorem Apart.after (h : Apart t) (r : Receiver) : Apart (t.after r) := by
  refine ⟨h.connections, h.source, fun e he => ?_⟩
  rcases List.mem_append.1 he with he | he
  · exact h.returned e he
  · cases hsource : t.source with
    | none => simp [hsource] at he
    | some s =>
      rw [hsource] at he
      rw [List.eq_of_mem_replicate he]
      exact (h.source s hsource).symm

theorem Apart.read (h : Apart t) (k : Nat) : Apart (t.read k) :=
  ⟨fun s hs => h.connections s (mem_of_mem_read hs), h.source, h.returned⟩

theorem current_create (host : String) (port : Int) : Current (create host port) := nofun

theorem Current.begun (h : Current t) (hdrained : t.sessions < t.begun.sessions → ∀ s, some s ∉ t.connections) :
    Current t.begun := by
  unfold Traffic.begun at hdrained ⊢
  split
  · exact h
  · rename_i hlistening
    rw [if_neg hlistening] at hdrained
    exact fun s hs => absurd hs (hdrained (Nat.lt_succ_self _) s)

theorem Current.read (h : Current t) (k : Nat) : Current (t.read k) := fun s hs => h s (mem_of_mem_read hs)

/-- a receiver that comes to a result ends the receives that were pending, so more have ended than before -/
theorem ended_lt_of_resolves {r after : Receiver} {result : Result} (h : Resolves r result after) {x : Receive}
    (hx : x ∈ r.receives) (hpending : x.isPending = true) : ended r.receives < ended after.receives := by
  rw [ended_eq_length h.ended, h.receives, List.length_map, ended]
  refine List.countP_le_length.lt_of_ne fun hall => ?_
  have hended := List.countP_eq_length.1 hall x hx
  rw [hpending] at hended
  cases hended

section

variable [Interpreter]

/-- what goes into the result comes from the session at hand, or nothing goes into it -/
theorem Apart.filled (h : Apart t) (hs : s = t.sessions ∨ t.receiver.result ≠ some .open) : Apart (t.filled s reading) := by
  unfold Traffic.filled
  split
  · rename_i hopen _
    have hsession := hs.resolve_right (not_not_intro hopen)
    exact ⟨h.connections, fun s' hs' => Option.some.inj hs' ▸ hsession, h.returned⟩
  · exact h

/-- **A step keeps the sessions apart**, unless a late connection finds the result open -/
theorem apart_step (h : Apart t) (hquiet : t.IsLate m → t.receiver.result ≠ some .open) : Apart (t.step m) := by
  cases m with
  | start bind => exact h.begun.after _
  | receive bind token => exact h.begun.after _
  | cancel => exact h.after _
  | close => exact h.after _
  | connect =>
    rw [step]
    split
    · refine ⟨fun s hs => ?_, h.source, h.returned⟩
      rcases mem_or_eq_of_mem_connect hs with hs | hs
      · exact h.connections s hs
      · exact hs.le
    · exact h
  | complete k reading =>
    rw [step]
    split
    · rename_i s hs
      have hle := h.connections s (List.mem_of_getElem? hs)
      refine ((h.read k).filled ?_).after _
      rcases hle.eq_or_lt with hsession | hlate
      · exact .inl hsession
      · exact .inr (hquiet ⟨k, reading, s, rfl, hs, hlate⟩)
    · exact h

theorem apart_run (h : Apart t) (hquiet : t.Quiet moves) : Apart (t.run moves) := by
  induction moves generalizing t with
  | nil => exact h
  | cons m moves ih => exact ih (apart_step h hquiet.1) hquiet.2

/-! ## No connection is late -/

theorem Current.filled (h : Current t) : Current (t.filled s reading) := by
  unfold Traffic.filled
  split <;> exact h

theorem current_step (h : Current t) (hdrained : t.sessions < (t.step m).sessions → ∀ s, some s ∉ t.connections) :
    Current (t.step m) := by
  cases m with
  | start bind => exact h.begun hdrained
  | receive bind token => exact h.begun hdrained
  | cancel => exact h
  | close => exact h
  | connect =>
    rw [step]
    split
    · intro s hs
      rcases mem_or_eq_of_mem_connect hs with hs | hs
      · exact h s hs
      · exact hs
    · exact h
  | complete k reading =>
    rw [step]
    split
    · exact (h.read k).filled
    · exact h

/-- **If no session begins while a connection is open, no connection is late** -/
theorem quiet_of_drained (h : Current t) (hdrained : t.Drained moves) : t.Quiet moves := by
  induction moves generalizing t with
  | nil => trivial
  | cons m moves ih =>
    refine ⟨?_, ih (current_step h hdrained.1) hdrained.2⟩
    rintro ⟨k, reading, s, -, hs, hlate⟩
    exact absurd (h s (List.mem_of_getElem? hs)) hlate.ne

/-! ## Late connections -/

/-- **A late payload is returned**: a connection that finds the result open resolves the receives of the session at hand,
whatever session it was accepted in -/
theorem late_payload_returned (hk : t.connections[k]? = some (some s)) (hopen : t.receiver.result = some .open)
    (hreadable : Readable bytes) {x : Receive} (hx : x ∈ t.receiver.receives) (hpending : x.isPending = true) :
    (t.sessions, s) ∈ (t.step (.complete k (.ok bytes))).returned := by
  have hresult := ofPayload_eq hreadable
  have hfixed : (Result.ofFirst [bytes]).isFixed = true := by
    rw [Result.ofFirst]
    cases Finding.decode bytes <;> rfl
  have hresolves : Resolves t.receiver (Result.ofFirst [bytes]) (t.receiver.complete (.ok bytes)).1 := by
    rw [complete_of_ok hopen hresult]
    exact resolves_of_isFixed t.receiver hfixed
  have hfilled : (t.read k).filled s (.ok bytes) = { t.read k with source := some s } := by
    unfold filled
    rw [show (t.read k).receiver.result = some .open from hopen, Except.bind, hresult]
  have hlt := ended_lt_of_resolves hresolves hx hpending
  rw [step, hk]
  simp only [hfilled, after]
  refine List.mem_append_right _ (List.mem_replicate.2 ⟨?_, rfl⟩)
  exact (Nat.sub_pos_of_lt hlt).ne'

/-- what a run returns, and what a connection that comes to its end after it does -/
structure Returns (t : Traffic) (moves : List Move) : Prop where
  /-- the sessions are apart if every late connection finds the result fixed -/
  apart : t.Quiet moves → ∀ e ∈ (t.run moves).returned, e.1 = e.2
  /-- so they are if no session begins while a connection is open -/
  drained : t.Drained moves → ∀ e ∈ (t.run moves).returned, e.1 = e.2
  /-- but any connection that finds it open resolves the receives of the session at hand -/
  resolved : ∀ k s bytes, (t.run moves).connections[k]? = some (some s) → (t.run moves).receiver.result = some .open →
    Readable bytes → (∃ x ∈ (t.run moves).receiver.receives, x.isPending = true) →
      ((t.run moves).sessions, s) ∈ (t.run (moves ++ [.complete k (.ok bytes)])).returned

/-- **Sessions mix only by late connections that find the result open**, and these do mix them -/
theorem returns_run (host : String) (port : Int) (moves : List Move) : Returns (create host port) moves where
  apart hquiet := (apart_run (apart_create host port) hquiet).returned
  drained hdrained :=
    (apart_run (apart_create host port) (quiet_of_drained (current_create host port) hdrained)).returned
  resolved k s bytes hk hopen hreadable := by
    rintro ⟨x, hx, hpending⟩
    rw [run, List.foldl_append]
    exact late_payload_returned hk hopen hreadable hx hpending

end

/-- a connection that is accepted in a session that is cancelled, and comes to its end in the next one -/
def overtaken : List Move :=
  [.receive (fun _ => .ok (some 50001)) (some false), .connect, .cancel,
    .receive (fun _ => .ok (some 50001)) (some false), .complete 0 (.ok noFindings)]

/-- **A payload in the wrong session.** The receive of the second session returns what a connection of the first one sent. -/
theorem overtaken_mixes : letI : Interpreter := .usual
    ((create "127.0.0.1" 50001).run overtaken).receiver.receives =
        [.ended (.error (.fault .receiveCancelled)), .ended (.ok [])] ∧
      ((create "127.0.0.1" 50001).run overtaken).returned = [(2, 1)] := by
  let : Interpreter := .usual
  have hdecode : Finding.decode noFindings = .ok [] := by
    have hlength : (Finding.decode noFindings).toOption.map List.length = some 0 := by decide +kernel
    obtain ⟨fs, hfs, hzero⟩ := Option.map_eq_some_iff.1 hlength
    rw [toOption_eq_some hfs, List.eq_nil_of_length_eq_zero hzero]
  have hcomplete : ((create "127.0.0.1" 50001).run overtaken).receiver =
      (Receiver.complete (.ok noFindings) ⟨"127.0.0.1", 50001, true, some .open,
        [.ended (.error (.fault .receiveCancelled)), .pending (some false)]⟩).1 := rfl
  refine ⟨?_, by decide +kernel⟩
  rw [hcomplete, complete_of_ok rfl (by rw [Result.ofPayload, hdecode])]
  rfl

end Traffic

end ChangeLint.Receiver
