/-
The course of sending, in closed form.

An attempt is repeated if the system refuses it and some time is left (`Parcel.Waits`). A sender repeats some attempts, with
a pause behind each of them (`Parcel.waiting`), and makes its last one (`Parcel.Last`): it is accepted, it is refused too
late, or it fails otherwise; or no further attempt is watched.

Results:
- `course_send`: every sending has such a course;
- `send_of_le`: one that has come to an end is the same however long it is watched;
- `Course.attempts`, `Course.pauses`, `Course.signals`: what can be read off it.
-/
import ChangeLint.Proofs.Delivery.Sending
import Mathlib.Data.List.Range
import Mathlib.Tactic

namespace ChangeLint.Parcel

variable {τ : Type} [Add τ] [Sub τ] [OfNat τ 0] [LT τ] [DecidableLT τ]

/-! ## Attempts that are repeated -/

/-- the pause behind an attempt that is repeated -/
def pauseAfter (p : Parcel τ) (peer : Peer τ) (n : Nat) : τ := p.pauseWithin (p.left peer (p.begins peer n))

/-- so many attempts from a number on, each with the pause behind it -/
def waiting (p : Parcel τ) (peer : Peer τ) (n : Nat) : Nat → List (Sending.Step τ)
  | 0 => []
  | k + 1 => p.trying ++ .pause (p.pauseAfter peer n) :: p.waiting peer (n + 1) k

/-- a sender that waits makes its attempts, -/
theorem attempts_waiting (p : Parcel τ) (peer : Peer τ) (n k : Nat) (ending : Option (Except Failure Unit)) :
    (⟨p.waiting peer n k, ending⟩ : Sending τ).attempts = k := by
  induction k generalizing n with
  | zero => rfl
  | succ k ih =>
    have hrest := ih (n + 1)
    simp only [Sending.attempts] at hrest ⊢
    rw [waiting, List.countP_append, List.countP_cons, hrest]
    simp [trying, Nat.add_comm]

/-- a pause behind each of them, -/
theorem pauses_waiting (p : Parcel τ) (peer : Peer τ) (n k : Nat) (ending : Option (Except Failure Unit)) :
    (⟨p.waiting peer n k, ending⟩ : Sending τ).pauses = (List.range' n k).map (p.pauseAfter peer) := by
  induction k generalizing n with
  | zero => rfl
  | succ k ih =>
    have hrest := ih (n + 1)
    simp only [Sending.pauses] at hrest ⊢
    rw [waiting, List.filterMap_append, List.filterMap_cons, hrest, List.range'_succ, List.map_cons]
    simp [trying]

/-- and takes no step on a connection -/
theorem signals_waiting (p : Parcel τ) (peer : Peer τ) (n k : Nat) (ending : Option (Except Failure Unit)) :
    (⟨p.waiting peer n k, ending⟩ : Sending τ).act.signals = [] := by
  induction k generalizing n with
  | zero => rfl
  | succ k ih =>
    have hrest := ih (n + 1)
    simp only [Sending.act, Sending.events, Act.signals] at hrest ⊢
    rw [waiting, List.filterMap_append, List.filterMap_append, List.filterMap_cons, hrest]
    simp [trying, Event.signal?]

/-! ## Courses -/

variable [LE τ]

/-- an attempt that is repeated: the system refuses it, and some time is left -/
structure Waits (p : Parcel τ) (peer : Peer τ) (n : Nat) : Prop where
  refused : ∃ f, peer.refusal n (p.begins peer n) = some f ∧ f.isSystem = true
  inTime : ¬ p.left peer (p.begins peer n) ≤ 0

/-- what sending comes to with the attempt that is not repeated -/
inductive Last (p : Parcel τ) (peer : Peer τ) (n : Nat) : Sending τ → Prop
  /-- it is not watched any more -/
  | unwatched : Last p peer n ⟨[], none⟩
  | accepted (h : peer.refusal n (p.begins peer n) = none) :
    Last p peer n ⟨p.trying ++ (p.transmit peer).trace.map .event, some (p.transmit peer).result⟩
  /-- the system refuses it, and no time is left -/
  | late {f : Failure} (h : peer.refusal n (p.begins peer n) = some f) (hsystem : f.isSystem = true)
    (hleft : p.left peer (p.begins peer n) ≤ 0) : Last p peer n ⟨p.trying, some (.error p.unreachable)⟩
  /-- it fails otherwise -/
  | broken {f : Failure} (h : peer.refusal n (p.begins peer n) = some f) (hsystem : f.isSystem = false) :
    Last p peer n ⟨p.trying, some (.error f)⟩

/-- the last attempt of a sender that the system refuses is unwatched or too late -/
theorem Last.of_refused {p : Parcel τ} {peer : Peer τ} {n : Nat} {last : Sending τ} (h : p.Last peer n last)
    (hrefused : ∃ f, peer.refusal n (p.begins peer n) = some f ∧ f.isSystem = true) :
    last = ⟨[], none⟩ ∨ last = ⟨p.trying, some (.error p.unreachable)⟩ ∧ p.left peer (p.begins peer n) ≤ 0 := by
  obtain ⟨f, hf, hsystem⟩ := hrefused
  cases h with
  | unwatched => exact .inl rfl
  | accepted hrefusal =>
    rw [hf] at hrefusal
    cases hrefusal
  | late _ _ hleft => exact .inr ⟨rfl, hleft⟩
  | broken hrefusal hnot =>
    obtain rfl := Option.some.inj (hf.symm.trans hrefusal)
    rw [hsystem] at hnot
    cases hnot

/-- the attempts before number `k` are repeated, and number `k` is the last one; it is unwatched only at the limit -/
structure Course (p : Parcel τ) (peer : Peer τ) (limit k : Nat) (last s : Sending τ) : Prop where
  waits : ∀ j < k, p.Waits peer j
  ends : p.Last peer k last
  steps : s.steps = p.waiting peer 0 k ++ last.steps
  ending : s.ending = last.ending
  within : k ≤ limit
  watched : last.ending = none → k = limit

variable {p : Parcel τ} {peer : Peer τ} {n k limit : Nat} {s last : Sending τ}

namespace Course

theorem attempts (h : p.Course peer limit k last s) : s.attempts = k + last.attempts := by
  have hwaiting := attempts_waiting p peer 0 k none
  unfold Sending.attempts at hwaiting ⊢
  rw [h.steps, List.countP_append, hwaiting]

theorem pauses (h : p.Course peer limit k last s) : s.pauses = (List.range k).map (p.pauseAfter peer) ++ last.pauses := by
  have hwaiting := pauses_waiting p peer 0 k none
  unfold Sending.pauses at hwaiting ⊢
  rw [h.steps, List.filterMap_append, hwaiting, List.range_eq_range']

theorem signals (h : p.Course peer limit k last s) : s.act.signals = last.act.signals := by
  have hwaiting := signals_waiting p peer 0 k none
  unfold Sending.act Sending.events Act.signals at hwaiting ⊢
  rw [h.steps, List.filterMap_append, List.filterMap_append, hwaiting, List.nil_append]

end Course

/-! ## Every sending has a course -/

variable [DecidableLE τ]

/-- sending from some attempt on: by induction on the attempts that are watched, with one attempt at a time -/
theorem exists_course (p : Parcel τ) (peer : Peer τ) (limit n : Nat) :
    ∃ k last, (∀ j < k, p.Waits peer (n + j)) ∧ p.Last peer (n + k) last ∧ k ≤ limit ∧ (last.ending = none → k = limit) ∧
      p.attemptsFrom peer p.deadline limit n (p.begins peer n) = ⟨p.waiting peer n k ++ last.steps, last.ending⟩ := by
  have hnone : ∀ n, ∀ j < 0, p.Waits peer (n + j) := fun _ j hj => absurd hj j.not_lt_zero
  induction limit generalizing n with
  | zero => exact ⟨0, ⟨[], none⟩, hnone n, .unwatched, le_rfl, fun _ => rfl, rfl⟩
  | succ limit ih =>
    cases hrefusal : peer.refusal n (p.begins peer n) with
    | none =>
      exact ⟨0, _, hnone n, .accepted hrefusal, Nat.zero_le _, fun h => absurd h (Option.some_ne_none _),
        attemptsFrom_of_accepted hrefusal limit⟩
    | some f =>
      cases hsystem : f.isSystem with
      | false =>
        refine ⟨0, _, hnone n, .broken hrefusal hsystem, Nat.zero_le _, fun h => absurd h (Option.some_ne_none _), ?_⟩
        simp only [attemptsFrom, hrefusal, hsystem]
        rfl
      | true =>
        by_cases hleft : p.left peer (p.begins peer n) ≤ 0
        · refine ⟨0, _, hnone n, .late hrefusal hsystem hleft, Nat.zero_le _, fun h => absurd h (Option.some_ne_none _), ?_⟩
          have hremaining : p.deadline - (p.begins peer n + peer.cost) ≤ 0 := hleft
          simp only [attemptsFrom, hrefusal, hsystem, if_true, hremaining]
          rfl
        · obtain ⟨k, last, hwaits, hlast, hk, hwatched, hrun⟩ := ih (n + 1)
          refine ⟨k + 1, last, ?_, ?_, Nat.succ_le_succ hk, fun h => congrArg (· + 1) (hwatched h), ?_⟩
          · intro j hj
            cases j with
            | zero => exact ⟨⟨f, hrefusal, hsystem⟩, hleft⟩
            | succ j =>
              rw [show n + (j + 1) = n + 1 + j by omega]
              exact hwaits j (Nat.lt_of_succ_lt_succ hj)
          · rwa [show n + (k + 1) = n + 1 + k by omega]
          · rw [begins] at hrun
            rw [attemptsFrom_of_refused hrefusal hsystem hleft, hrun, waiting, List.append_assoc]
            rfl

/-- sending that has come to an end is the same however long it is watched -/
theorem attemptsFrom_of_le {more : Nat} {now : τ} (h : (p.attemptsFrom peer p.deadline limit n now).ending ≠ none)
    (hle : limit ≤ more) : p.attemptsFrom peer p.deadline more n now = p.attemptsFrom peer p.deadline limit n now := by
  induction limit generalizing n now more with
  | zero => exact absurd rfl h
  | succ limit ih =>
    obtain ⟨more, rfl⟩ := Nat.exists_eq_succ_of_ne_zero (Nat.ne_of_gt (Nat.lt_of_lt_of_le limit.succ_pos hle))
    cases hrefusal : peer.refusal n now with
    | none => rw [attemptsFrom_of_accepted hrefusal, attemptsFrom_of_accepted hrefusal]
    | some f =>
      by_cases hrepeated : f.isSystem = true ∧ ¬ p.left peer now ≤ 0
      · obtain ⟨hsystem, hleft⟩ := hrepeated
        rw [attemptsFrom_of_refused hrefusal hsystem hleft] at h
        rw [attemptsFrom_of_refused hrefusal hsystem hleft, attemptsFrom_of_refused hrefusal hsystem hleft,
          ih h (Nat.le_of_succ_le_succ hle)]
      · rw [not_and_not_right] at hrepeated
        have hlate : f.isSystem = true → p.deadline - (now + peer.cost) ≤ 0 := hrepeated
        simp only [attemptsFrom, hrefusal]
        split_ifs with hsystem hremaining
        · rfl
        · exact absurd (hlate hsystem) hremaining
        · rfl

theorem send_of_le {more : Nat} (h : (p.send peer limit).ending ≠ none) (hle : limit ≤ more) :
    p.send peer more = p.send peer limit :=
  attemptsFrom_of_le h hle

/-- **Every sending has a course** -/
theorem course_send (p : Parcel τ) (peer : Peer τ) (limit : Nat) : ∃ k last, p.Course peer limit k last (p.send peer limit) := by
  obtain ⟨k, last, hwaits, hlast, hk, hwatched, hrun⟩ := p.exists_course peer limit 0
  simp only [Nat.zero_add] at hwaits hlast
  have hsend : p.send peer limit = ⟨p.waiting peer 0 k ++ last.steps, last.ending⟩ := hrun
  rw [hsend]
  exact ⟨k, last, hwaits, hlast, rfl, rfl, hk, hwatched⟩

end ChangeLint.Parcel
