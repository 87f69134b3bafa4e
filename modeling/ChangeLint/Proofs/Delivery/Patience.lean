/-
Patience: in exact time a sender gives up when its timeout is over, and not before.

An attempt is repeated as long as some time is left. The pause behind it ends at the deadline at the latest, and only a pause
that ends there is shorter than the one that was chosen (`pauseAfter_eq_pause`); so attempt number `n` does not begin before
`n` pauses of full length (`mul_pause_le_begins`), which bounds the attempts.

Results (`patience_send`), for a timeout that is not negative and a pause that is positive:
- attempts that are all refused end at the deadline or later, after `⌈timeout / pause⌉` pauses at most (`GivesUp`);
- if attempts take no time, one that begins at the deadline at the latest reaches a receiver that listens by then
  (`Reaches`).
-/
import ChangeLint.Proofs.Delivery.Transmission
import Mathlib.Algebra.Order.Floor.Semiring
import Mathlib.Data.Rat.Floor

namespace ChangeLint

/-- all attempts are refused by the system -/
def Peer.Refuses (peer : Peer ℚ) : Prop := ∀ n now, ∃ f, peer.refusal n now = some f ∧ f.isSystem = true

/-- someone listens from a time on; until then an attempt may be refused by the system -/
structure Peer.ListensFrom (peer : Peer ℚ) (start : ℚ) : Prop where
  accepts : ∀ n now, start ≤ now → peer.refusal n now = none
  refuses : ∀ n now f, peer.refusal n now = some f → f.isSystem = true

namespace Parcel

variable {p : Parcel ℚ} {peer : Peer ℚ} {n k limit : Nat} {s last : Sending ℚ}

/-- sending that was refused until the timeout was over -/
structure GivesUp (p : Parcel ℚ) (peer : Peer ℚ) (s : Sending ℚ) : Prop where
  ending : s.ending = some (.error p.unreachable)
  pause : ∀ d ∈ s.pauses, 0 < d ∧ d ≤ p.pause
  total : s.pauses.sum ≤ p.timeout
  few : s.pauses.length ≤ ⌈p.timeout / p.pause⌉₊
  attempts : s.attempts = s.pauses.length + 1
  /-- the last step is an attempt; when it fails, the time of all attempts and pauses is over -/
  last : s.steps.getLast? = some .attempt
  deadline : p.timeout ≤ s.pauses.sum + s.attempts * peer.cost

/-- sending that reached a receiver before the timeout was over -/
structure Reaches (p : Parcel ℚ) (peer : Peer ℚ) (n : Nat) (s : Sending ℚ) : Prop where
  /-- attempt number `n` is accepted, those before it were refused -/
  accepted : p.Accepted peer n
  inTime : p.begins peer n ≤ p.timeout
  attempts : s.attempts = n + 1
  writes : s.writes = [p.payload]
  /-- sending ends well if the payload drains -/
  ending : s.ending = some (peer.drainFailure.elim (.ok ()) .error)

/-! ## One pause -/

theorem left_eq (p : Parcel ℚ) (peer : Peer ℚ) (n : Nat) :
    p.left peer (p.begins peer n) = p.timeout - (p.begins peer n + peer.cost) := by
  rw [left, deadline, zero_add]

theorem begins_succ (p : Parcel ℚ) (peer : Peer ℚ) (n : Nat) :
    p.begins peer (n + 1) = p.begins peer n + peer.cost + p.pauseAfter peer n := rfl

theorem pauseAfter_le_pause (p : Parcel ℚ) (peer : Peer ℚ) (n : Nat) : p.pauseAfter peer n ≤ p.pause := by
  unfold pauseAfter pauseWithin
  split_ifs with h
  · exact h.le
  · exact le_rfl

theorem pauseAfter_le_left (p : Parcel ℚ) (peer : Peer ℚ) (n : Nat) :
    p.pauseAfter peer n ≤ p.left peer (p.begins peer n) := by
  unfold pauseAfter pauseWithin
  split_ifs with h
  · exact le_rfl
  · exact not_lt.1 h

theorem pauseAfter_pos (hpause : 0 < p.pause) (h : p.Waits peer n) : 0 < p.pauseAfter peer n := by
  unfold pauseAfter pauseWithin
  split_ifs
  · exact not_le.1 h.inTime
  · exact hpause

/-- a pause ends at the deadline at the latest -/
theorem begins_succ_le (p : Parcel ℚ) (peer : Peer ℚ) (n : Nat) : p.begins peer (n + 1) ≤ p.timeout := by
  have hpause := p.pauseAfter_le_left peer n
  rw [left_eq] at hpause
  rw [begins_succ]
  linarith

/-- a pause with another one behind it has its full length -/
theorem pauseAfter_eq_pause (hcost : 0 ≤ peer.cost) (h : p.Waits peer (n + 1)) : p.pauseAfter peer n = p.pause := by
  have hleft : p.left peer (p.begins peer (n + 1)) > 0 := not_le.1 h.inTime
  rw [left_eq, begins_succ] at hleft
  unfold pauseAfter pauseWithin at hleft ⊢
  split_ifs at hleft ⊢ with hshort
  · -- a shorter pause would have ended at the deadline
    rw [left_eq] at hleft
    linarith
  · rfl

/-! ## All pauses -/

/-- what is over when an attempt begins -/
theorem begins_eq (p : Parcel ℚ) (peer : Peer ℚ) (n : Nat) :
    p.begins peer n = ((List.range n).map (p.pauseAfter peer)).sum + n * peer.cost := by
  induction n with
  | zero => simp [begins]
  | succ n ih =>
    rw [begins_succ, ih, List.range_succ, List.map_append, List.sum_append]
    simp
    ring

/-- an attempt with another one behind it does not begin before so many pauses -/
theorem mul_pause_le_begins (hcost : 0 ≤ peer.cost) (h : ∀ j ≤ n, p.Waits peer j) : n * p.pause ≤ p.begins peer n := by
  induction n with
  | zero => simp [begins]
  | succ n ih =>
    have hn := ih fun j hj => h j (Nat.le_succ_of_le hj)
    rw [begins_succ, pauseAfter_eq_pause hcost (h (n + 1) le_rfl)]
    push_cast
    linarith

/-- **Only so many attempts are repeated** -/
theorem le_ceil_of_waits (hcost : 0 ≤ peer.cost) (hpause : 0 < p.pause) (h : ∀ j < k, p.Waits peer j) :
    k ≤ ⌈p.timeout / p.pause⌉₊ := by
  cases k with
  | zero => exact Nat.zero_le _
  | succ k =>
    have hbegins := mul_pause_le_begins hcost fun j hj => h j (Nat.lt_succ_of_le hj)
    have hleft : p.left peer (p.begins peer k) > 0 := not_le.1 (h k k.lt_succ_self).inTime
    rw [left_eq] at hleft
    rw [Nat.succ_le_iff, Nat.lt_ceil, lt_div_iff₀ hpause]
    linarith

/-! ## Whole courses -/

/-- a course that is watched for long enough has an end -/
theorem Course.ending_ne_none (h : p.Course peer limit k last s) (hcost : 0 ≤ peer.cost) (hpause : 0 < p.pause)
    (hlimit : ⌈p.timeout / p.pause⌉₊ < limit) : last.ending ≠ none := by
  intro hnone
  have hk := le_ceil_of_waits hcost hpause h.waits
  have hlimit' := h.watched hnone
  omega

theorem Course.givesUp (h : p.Course peer limit k ⟨p.trying, some (.error p.unreachable)⟩ s) (htimeout : 0 ≤ p.timeout)
    (hpause : 0 < p.pause) (hcost : 0 ≤ peer.cost) (hleft : p.left peer (p.begins peer k) ≤ 0) : GivesUp p peer s := by
  have hpauses : s.pauses = (List.range k).map (p.pauseAfter peer) := by
    rw [h.pauses]
    exact List.append_nil _
  have hlength : s.pauses.length = k := by rw [hpauses, List.length_map, List.length_range]
  have hattempts : s.attempts = k + 1 := h.attempts
  have hbegins := p.begins_eq peer k
  rw [← hpauses] at hbegins
  refine ⟨h.ending, ?_, ?_, ?_, by rw [hattempts, hlength], ?_, ?_⟩
  · intro d hd
    rw [hpauses] at hd
    obtain ⟨j, hj, rfl⟩ := List.mem_map.1 hd
    exact ⟨pauseAfter_pos hpause (h.waits j (List.mem_range.1 hj)), p.pauseAfter_le_pause peer j⟩
  · have hspent : 0 ≤ k * peer.cost := mul_nonneg (Nat.cast_nonneg k) hcost
    cases k with
    | zero =>
      rw [hpauses]
      exact htimeout
    | succ k =>
      have hle := p.begins_succ_le peer k
      linarith
  · rw [hlength]
    exact le_ceil_of_waits hcost hpause h.waits
  · rw [h.steps]
    exact List.getLast?_append_of_ne_nil _ (List.cons_ne_nil _ _)
  · rw [left_eq] at hleft
    rw [hattempts]
    push_cast
    linarith

/-- **A sender that is refused gives up** -/
theorem givesUp_send (htimeout : 0 ≤ p.timeout) (hpause : 0 < p.pause) (hcost : 0 ≤ peer.cost) (hrefuses : peer.Refuses)
    (hlimit : ⌈p.timeout / p.pause⌉₊ < limit) : GivesUp p peer (p.send peer limit) := by
  obtain ⟨k, last, h⟩ := p.course_send peer limit
  rcases h.ends.of_refused (hrefuses k (p.begins peer k)) with rfl | ⟨rfl, hleft⟩
  · exact absurd rfl (h.ending_ne_none hcost hpause hlimit)
  · exact h.givesUp htimeout hpause hcost hleft

/-- every attempt begins before the timeout is over, or when it is -/
theorem begins_le (htimeout : 0 ≤ p.timeout) (peer : Peer ℚ) (n : Nat) : p.begins peer n ≤ p.timeout := by
  cases n with
  | zero => exact htimeout
  | succ n => exact p.begins_succ_le peer n

/-- **A receiver that listens in time is reached**, if attempts take no time: until it listens, some time is left -/
theorem exists_accepted {start : ℚ} (hpause : 0 < p.pause) (hcost : peer.cost = 0) (hstart : start ≤ p.timeout)
    (hlistens : peer.ListensFrom start) : ∃ n ≤ ⌈p.timeout / p.pause⌉₊, p.Accepted peer n := by
  obtain ⟨k, last, h⟩ := p.course_send peer (⌈p.timeout / p.pause⌉₊ + 1)
  refine ⟨k, le_ceil_of_waits hcost.ge hpause h.waits, fun j hj => (h.waits j hj).refused,
    fun j hj => (h.waits j hj).inTime, ?_⟩
  have hends := h.ends
  cases hends with
  | unwatched => exact absurd rfl (h.ending_ne_none hcost.ge hpause (Nat.lt_succ_self _))
  | accepted hrefusal => exact hrefusal
  | late hrefusal _ hleft =>
    rw [left_eq, hcost, add_zero, sub_nonpos] at hleft
    rw [hlistens.accepts k _ (hstart.trans hleft)] at hrefusal
    cases hrefusal
  | broken hrefusal hnot =>
    rw [hlistens.refuses k _ _ hrefusal] at hnot
    cases hnot

/-- a sender that is accepted in time reaches the receiver -/
theorem Accepted.reaches (h : p.Accepted peer n) (htimeout : 0 ≤ p.timeout) (hlimit : n < limit) :
    Reaches p peer n (p.send peer limit) := by
  obtain ⟨k, last, hcourse⟩ := p.course_send peer limit
  obtain ⟨rfl, rfl⟩ := hcourse.eq_of_accepted hlimit h
  obtain ⟨hwrites, hcloses⟩ := hcourse.closes rfl
  exact ⟨h, begins_le htimeout peer k, by rw [hcourse.attempts, attempts_trying], hwrites, hcloses.ending⟩

/-- how long a sender tries: in both cases sending is the same however long it is watched from then on -/
structure Patience (p : Parcel ℚ) : Prop where
  /-- refused by all, it gives up at the deadline -/
  givesUp : ∀ peer : Peer ℚ, 0 ≤ peer.cost → peer.Refuses →
    ∃ s, GivesUp p peer s ∧ ∀ limit, ⌈p.timeout / p.pause⌉₊ < limit → p.send peer limit = s
  /-- a receiver that listens by the deadline is reached, if attempts take no time -/
  reaches : ∀ (peer : Peer ℚ) (start : ℚ), peer.cost = 0 → start ≤ p.timeout → peer.ListensFrom start →
    ∃ n ≤ ⌈p.timeout / p.pause⌉₊, ∃ s, Reaches p peer n s ∧ ∀ limit, n < limit → p.send peer limit = s

/-- **A sender gives up in time, and not before** -/
theorem patience_send (htimeout : 0 ≤ p.timeout) (hpause : 0 < p.pause) : Patience p where
  givesUp peer hcost hrefuses := by
    have hgivesUp := givesUp_send htimeout hpause hcost hrefuses (Nat.lt_succ_self _)
    refine ⟨_, hgivesUp, fun limit hlimit => send_of_le ?_ hlimit⟩
    rw [hgivesUp.ending]
    exact Option.some_ne_none _
  reaches peer start hcost hstart hlistens := by
    obtain ⟨n, hn, haccepted⟩ := exists_accepted hpause hcost hstart hlistens
    have hreaches := haccepted.reaches htimeout (Nat.lt_succ_self n)
    refine ⟨n, hn, _, hreaches, fun limit hlimit => send_of_le ?_ hlimit⟩
    rw [hreaches.ending]
    exact Option.some_ne_none _

/-- two seconds and a half, with a pause of one second -/
def unhurried : Parcel ℚ := ⟨"127.0.0.1:9000", [0x5b, 0x5d], 5 / 2, 1, .null⟩

/-- attempts that take a quarter of a second, and are refused -/
def deaf : Peer ℚ := ⟨fun _ _ => some (.system "ConnectionRefusedError" "refused"), 1 / 4, true, none⟩

/-- someone listens from two seconds and a quarter on -/
def belated : Peer ℚ :=
  ⟨fun _ now => if 9 / 4 ≤ now then none else some (.system "ConnectionRefusedError" "refused"), 0, true, none⟩

theorem listensFrom_belated : belated.ListensFrom (9 / 4) where
  accepts _ _ h := if_pos h
  refuses _ now f h := by
    unfold belated at h
    dsimp only at h
    split_ifs at h
    rw [← Option.some.inj h]
    rfl

/-- the deaf one is given up, and the belated one is reached -/
theorem patience_unhurried :
    0 ≤ unhurried.timeout ∧ 0 < unhurried.pause ∧
      (∃ s, GivesUp unhurried deaf s ∧ ∀ limit, ⌈unhurried.timeout / unhurried.pause⌉₊ < limit → unhurried.send deaf limit = s) ∧
      ∃ n ≤ ⌈unhurried.timeout / unhurried.pause⌉₊, ∃ s, Reaches unhurried belated n s ∧
        ∀ limit, n < limit → unhurried.send belated limit = s := by
  have htimeout : 0 ≤ unhurried.timeout := by norm_num [unhurried]
  have hpause : 0 < unhurried.pause := by norm_num [unhurried]
  have hpatience := patience_send htimeout hpause
  refine ⟨htimeout, hpause, ?_, ?_⟩
  · exact hpatience.givesUp deaf (by norm_num [deaf]) fun _ _ => ⟨_, rfl, rfl⟩
  · exact hpatience.reaches belated (9 / 4) rfl (by norm_num [unhurried]) listensFrom_belated

end Parcel

end ChangeLint
