/-
What sending does on connections.

Attempts, refusals and the transmission share one loop, so a failure of draining could be taken for a refusal and the payload
be written again. It is not: whatever the other end refuses or breaks, whatever the scale of time, and however long sending
is watched (`transmits_send`):
- at most one payload is written, and it is if and only if an attempt was accepted;
- then its end is told if and only if it drained and the connection admits that, the connection is closed and waited for
  once, and sending ends as draining did, without a further attempt (`Closes`);
- an attempt that fails otherwise than by a refusal of the system ends sending at once.
-/
import ChangeLint.Proofs.Delivery.Course

namespace ChangeLint

/-- the payload of a step that writes one -/
def Signal.written? : Signal → Option (List UInt8)
  | .write payload => some payload
  | _ => none

/-- the payloads that were written -/
def Sending.writes {τ : Type} (s : Sending τ) : List (List UInt8) := s.act.signals.filterMap Signal.written?

namespace Parcel

section

variable {τ : Type} {p : Parcel τ} {peer : Peer τ}

/-- a connection on which a payload was written, and the end of sending -/
structure Closes (p : Parcel τ) (peer : Peer τ) (s : Sending τ) : Prop where
  /-- the end of the payload is told if and only if the payload drained and this can be told -/
  endOfFile : .endOfFile ∈ s.act.signals ↔ peer.drainFailure = none ∧ peer.takesEnd = true
  /-- after the payload the connection is closed and waited for, once -/
  closed : ∃ before, s.act.signals = before ++ [.close, .closed] ∧
    .write p.payload ∈ before ∧ .close ∉ before ∧ .closed ∉ before
  /-- neither an attempt nor a pause comes after the payload -/
  final : ∃ before after, s.steps = before ++ .event (.signal (.write p.payload)) :: after ∧ ∀ x ∈ after, ∃ e, x = .event e
  /-- sending ends as draining did -/
  ending : s.ending = some (peer.drainFailure.elim (.ok ()) .error)

/-! ## One connection -/

/-- the events of a transmission -/
theorem trace_transmit (p : Parcel τ) (peer : Peer τ) : ∃ told : List Event, told.filterMap Event.signal? = [] ∧
    (p.transmit peer).trace =
      (written p.payload (peer.drainFailure.isNone && peer.takesEnd)).map .signal ++ told := by
  unfold transmit
  cases peer.drainFailure with
  | some f => exact ⟨[], rfl, rfl⟩
  | none => cases peer.takesEnd <;> exact ⟨[.note ⟨.info, _⟩], rfl, rfl⟩

theorem result_transmit (p : Parcel τ) (peer : Peer τ) :
    (p.transmit peer).result = peer.drainFailure.elim (.ok ()) .error := by
  unfold transmit
  cases peer.drainFailure with
  | some f => rfl
  | none => cases peer.takesEnd <;> rfl

/-- an attempt itself takes no step on a connection, what comes after it may -/
theorem signals_trying (p : Parcel τ) (trace : List Event) (ending : Option (Except Failure Unit)) :
    (⟨p.trying ++ trace.map .event, ending⟩ : Sending τ).act.signals = trace.filterMap Event.signal? := by
  simp [Sending.act, Sending.events, Act.signals, trying, List.filterMap_map, List.filterMap_cons, Event.signal?]

theorem attempts_trying (p : Parcel τ) (trace : List Event) (ending : Option (Except Failure Unit)) :
    (⟨p.trying ++ trace.map .event, ending⟩ : Sending τ).attempts = 1 := by
  simp [Sending.attempts, trying, List.countP_map, Function.comp_def]

theorem writes_written (payload : List UInt8) (takesEnd : Bool) :
    (written payload takesEnd).filterMap Signal.written? = [payload] := by
  cases takesEnd <;> rfl

theorem endOfFile_mem_written {payload : List UInt8} {takesEnd : Bool} :
    .endOfFile ∈ written payload takesEnd ↔ takesEnd = true := by
  cases takesEnd <;> simp [written]

/-- the steps before the end of a connection -/
theorem exists_written (payload : List UInt8) (takesEnd : Bool) : ∃ before,
    written payload takesEnd = before ++ [.close, .closed] ∧ .write payload ∈ before ∧ .close ∉ before ∧ .closed ∉ before := by
  refine ⟨_, rfl, List.mem_append_left _ List.mem_cons_self, ?_, ?_⟩ <;> cases takesEnd <;> simp

end

/-! ## Whole courses -/

section

variable {τ : Type} [Add τ] [Sub τ] [OfNat τ 0] [LT τ] [DecidableLT τ] {p : Parcel τ} {peer : Peer τ} {s : Sending τ}

/-- what sending does on connections, as far as the attempts go that were made -/
structure Transmits (p : Parcel τ) (peer : Peer τ) (s : Sending τ) : Prop where
  /-- at most one payload is written, and no other than the one at hand -/
  once : s.writes = [] ∨ s.writes = [p.payload]
  /-- it is written if and only if one of the attempts was accepted -/
  accepted : s.writes = [p.payload] ↔ ∃ k < s.attempts, peer.refusal k (p.begins peer k) = none
  closes : s.writes = [p.payload] → p.Closes peer s
  /-- without a payload no step is taken on a connection -/
  silent : s.writes = [] → s.act.signals = []
  /-- an attempt that fails otherwise than by a refusal of the system is the last step, and its failure the end -/
  broken : ∀ k < s.attempts, ∀ f, peer.refusal k (p.begins peer k) = some f → f.isSystem = false →
    s.attempts = k + 1 ∧ s.pauses.length = k ∧ s.steps.getLast? = some .attempt ∧ s.ending = some (.error f)

/-- sending without an attempt that is accepted -/
theorem transmits_of_refused (hsignals : s.act.signals = [])
    (hrefused : ∀ k < s.attempts, peer.refusal k (p.begins peer k) ≠ none)
    (hbroken : ∀ k < s.attempts, ∀ f, peer.refusal k (p.begins peer k) = some f → f.isSystem = false →
      s.attempts = k + 1 ∧ s.pauses.length = k ∧ s.steps.getLast? = some .attempt ∧ s.ending = some (.error f)) :
    Transmits p peer s := by
  have hwrites : s.writes = [] := by rw [Sending.writes, hsignals, List.filterMap_nil]
  refine ⟨.inl hwrites, ?_, ?_, fun _ => hsignals, hbroken⟩
  · rw [hwrites]
    exact ⟨nofun, fun ⟨k, hk, h⟩ => absurd h (hrefused k hk)⟩
  · rw [hwrites]
    exact nofun

/-- sending with attempts that the system refuses -/
theorem transmits_of_system (hsignals : s.act.signals = [])
    (hsystem : ∀ k < s.attempts, ∃ f, peer.refusal k (p.begins peer k) = some f ∧ f.isSystem = true) :
    Transmits p peer s := by
  refine transmits_of_refused hsignals (fun k hk hnone => ?_) fun k hk f hf hnot => ?_
  · obtain ⟨f, hf, -⟩ := hsystem k hk
    rw [hnone] at hf
    cases hf
  · obtain ⟨f', hf', hsystem⟩ := hsystem k hk
    obtain rfl : f = f' := Option.some.inj (hf.symm.trans hf')
    rw [hnot] at hsystem
    cases hsystem

end

variable {τ : Type} [Add τ] [Sub τ] [OfNat τ 0] [LT τ] [DecidableLT τ] [LE τ]
  {p : Parcel τ} {peer : Peer τ} {k limit : Nat} {s last : Sending τ}

namespace Course

/-- a course with an attempt that is accepted -/
theorem closes (h : p.Course peer limit k last s)
    (hlast : last = ⟨p.trying ++ (p.transmit peer).trace.map .event, some (p.transmit peer).result⟩) :
    s.writes = [p.payload] ∧ p.Closes peer s := by
  obtain ⟨told, htold, htrace⟩ := p.trace_transmit peer
  have hsignals : s.act.signals = written p.payload (peer.drainFailure.isNone && peer.takesEnd) := by
    rw [h.signals, hlast, signals_trying, htrace, List.filterMap_append, htold, List.append_nil, List.filterMap_map]
    exact List.filterMap_some
  refine ⟨by rw [Sending.writes, hsignals, writes_written], ?_, ?_, ?_, ?_⟩
  · rw [hsignals, endOfFile_mem_written, Bool.and_eq_true, Option.isNone_iff_eq_none]
  · rw [hsignals]
    exact exists_written _ _
  · rw [h.steps, hlast, htrace]
    refine ⟨p.waiting peer 0 k ++ p.trying, _, by rw [List.append_assoc]; rfl, ?_⟩
    intro x hx
    obtain ⟨e, -, rfl⟩ := List.mem_map.1 hx
    exact ⟨e, rfl⟩
  · rw [h.ending, hlast, result_transmit]

/-- every attempt but the last is refused by the system -/
theorem eq_of_not_refused (h : p.Course peer limit k last s) (hone : s.attempts ≤ k + 1) {j : Nat} (hj : j < s.attempts)
    (hnot : ∀ f, peer.refusal j (p.begins peer j) = some f → f.isSystem = false) : j = k := by
  by_contra hne
  obtain ⟨f, hf, hsystem⟩ := (h.waits j (by omega)).refused
  rw [hnot f hf] at hsystem
  cases hsystem

theorem transmits (h : p.Course peer limit k last s) : Transmits p peer s := by
  have hattempts := h.attempts
  have hends := h.ends
  cases hends with
  | unwatched => exact transmits_of_system h.signals fun j hj => (h.waits j (by rwa [hattempts] at hj)).refused
  | accepted hrefusal =>
    have hone : s.attempts = k + 1 := by rw [hattempts, attempts_trying]
    obtain ⟨hwrites, hcloses⟩ := h.closes rfl
    refine ⟨.inr hwrites, ⟨fun _ => ⟨k, by omega, hrefusal⟩, fun _ => hwrites⟩, fun _ => hcloses, ?_, ?_⟩
    · rw [hwrites]
      exact nofun
    · intro j hj f hf hnot
      obtain rfl := h.eq_of_not_refused hone.le hj (by simp [hf, hnot])
      rw [hrefusal] at hf
      cases hf
  | late hrefusal hsystem hleft =>
    refine transmits_of_system h.signals fun j hj => ?_
    rcases Nat.lt_succ_iff_lt_or_eq.1 (hattempts.le.trans_lt' hj) with hlt | rfl
    · exact (h.waits j hlt).refused
    · exact ⟨_, hrefusal, hsystem⟩
  | broken hrefusal hsystem =>
    have hone : s.attempts = k + 1 := hattempts
    refine transmits_of_refused h.signals (fun j hj hnone => ?_) fun j hj f hf hnot => ?_
    · obtain rfl := h.eq_of_not_refused hone.le hj (by simp [hnone])
      rw [hrefusal] at hnone
      cases hnone
    · obtain rfl := h.eq_of_not_refused hone.le hj (by simp [hf, hnot])
      obtain rfl := Option.some.inj (hrefusal.symm.trans hf)
      have hpauses : s.pauses.length = j := by
        rw [h.pauses, List.length_append, List.length_map, List.length_range]
        rfl
      refine ⟨hone, hpauses, ?_, h.ending⟩
      rw [h.steps]
      exact List.getLast?_append_of_ne_nil _ (List.cons_ne_nil _ _)

/-- a sender that is accepted in time makes the attempt that is -/
theorem eq_of_accepted (h : p.Course peer limit k last s) {n : Nat} (hn : n < limit) (haccepted : p.Accepted peer n) :
    k = n ∧ last = ⟨p.trying ++ (p.transmit peer).trace.map .event, some (p.transmit peer).result⟩ := by
  have hle : k ≤ n := by
    by_contra hlt
    obtain ⟨f, hf, -⟩ := (h.waits n (by omega)).refused
    rw [haccepted.accepted] at hf
    cases hf
  have hends := h.ends
  cases hends with
  | unwatched => exact absurd (h.watched rfl) (by omega)
  | accepted hrefusal =>
    refine ⟨hle.eq_of_not_lt fun hlt => ?_, rfl⟩
    obtain ⟨f, hf, -⟩ := haccepted.refused k hlt
    rw [hrefusal] at hf
    cases hf
  | late hrefusal hsystem hleft =>
    rcases hle.lt_or_eq with hlt | rfl
    · exact absurd hleft (haccepted.inTime k hlt)
    · rw [haccepted.accepted] at hrefusal
      cases hrefusal
  | broken hrefusal hsystem =>
    rcases hle.lt_or_eq with hlt | rfl
    · obtain ⟨f, hf, hf'⟩ := haccepted.refused k hlt
      obtain rfl := Option.some.inj (hrefusal.symm.trans hf)
      rw [hsystem] at hf'
      cases hf'
    · rw [haccepted.accepted] at hrefusal
      cases hrefusal

end Course

variable [DecidableLE τ]

/-- **The payload is written at most once, and its connection is closed**; and it is written when the sender is accepted in
time -/
theorem transmits_send (p : Parcel τ) (peer : Peer τ) (limit : Nat) :
    Transmits p peer (p.send peer limit) ∧
      ∀ n < limit, p.Accepted peer n → (p.send peer limit).attempts = n + 1 ∧ (p.send peer limit).writes = [p.payload] := by
  obtain ⟨k, last, h⟩ := p.course_send peer limit
  refine ⟨h.transmits, fun n hn haccepted => ?_⟩
  obtain ⟨rfl, rfl⟩ := h.eq_of_accepted hn haccepted
  exact ⟨by rw [h.attempts, attempts_trying], (h.closes rfl).1⟩

/-- three seconds, with a pause of one second -/
def brief : Parcel ℤ := ⟨"127.0.0.1:9000", [0x5b, 0x5d], 3, 1, .null⟩

/-- the first attempt is refused, and the connection of the second one is reset before the payload drained -/
def resetting : Peer ℤ :=
  ⟨fun n _ => if n = 0 then some (.system "ConnectionRefusedError" "refused") else none, 0, true,
    some (.system "ConnectionResetError" "reset")⟩

/-- a reset is a failure of the system too, but no refusal: there is no third attempt -/
theorem transmits_resetting :
    brief.Accepted resetting 1 ∧ Transmits brief resetting (brief.send resetting 5) ∧
      (brief.send resetting 5).attempts = 2 ∧ (brief.send resetting 5).writes = [brief.payload] ∧
        (brief.send resetting 5).ending = some (.error (.system "ConnectionResetError" "reset")) := by
  have haccepted : brief.Accepted resetting 1 := by
    refine ⟨fun k hk => ?_, fun k hk => ?_, rfl⟩
    · obtain rfl := Nat.lt_one_iff.1 hk
      exact ⟨_, rfl, rfl⟩
    · obtain rfl := Nat.lt_one_iff.1 hk
      decide
  obtain ⟨htransmits, haccepts⟩ := transmits_send brief resetting 5
  obtain ⟨hattempts, hwrites⟩ := haccepts 1 (by decide) haccepted
  exact ⟨haccepted, htransmits, hattempts, hwrites, (htransmits.closes hwrites).ending⟩

end Parcel

end ChangeLint
