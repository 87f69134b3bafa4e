/-
Timeouts as deadlines.

Exact time is made of rational numbers and of what is no number (`ExactTime`): with that every comparison fails, and what is
computed from it is no number. So it passes for a timeout that is not before zero, and it never says that no time is left.

Results, for all settings that are accepted with a timeout that is not infinite (`deadlines_accepted`):
- a timeout that is a number is a deadline: a sender that is always refused gives up, after one attempt for each second of
  its timeout and one more at most (`Parcel.EndsWithin`);
- a timeout that is no number is none: such a sender tries and pauses for ever, in exact time and as it is computed
  (`Parcel.Endless`);
- a whole number beyond the greatest real ends sending before the first attempt, because time is computed with reals.
`nan_never_ends`: a timeout that is no number is accepted.
-/
import ChangeLint.Proofs.Delivery.Patience
import ChangeLint.Proofs.Delivery.Scale
import ChangeLint.Proofs.Settings.Validation

namespace ChangeLint

/-! ## Exact time -/

/-- a span in exact time: a number, or what is none -/
inductive ExactTime
  | number (q : ℚ)
  | undefined
deriving DecidableEq

namespace ExactTime

/-- an operation on numbers, which comes to no number otherwise -/
def combine (op : ℚ → ℚ → ℚ) : ExactTime → ExactTime → ExactTime
  | number a, number b => number (op a b)
  | _, _ => undefined

/-- a comparison of numbers, which fails otherwise -/
def compare (rel : ℚ → ℚ → Prop) : ExactTime → ExactTime → Prop
  | number a, number b => rel a b
  | _, _ => False

instance (rel : ℚ → ℚ → Prop) [DecidableRel rel] (x y : ExactTime) : Decidable (compare rel x y) :=
  match x, y with
  | number a, number b => inferInstanceAs (Decidable (rel a b))
  | number _, undefined => isFalse id
  | undefined, number _ => isFalse id
  | undefined, undefined => isFalse id

instance : Add ExactTime := ⟨combine (· + ·)⟩
instance : Sub ExactTime := ⟨combine (· - ·)⟩
instance : OfNat ExactTime 0 := ⟨number 0⟩
instance : LT ExactTime := ⟨compare (· < ·)⟩
instance : LE ExactTime := ⟨compare (· ≤ ·)⟩
instance (x y : ExactTime) : Decidable (x < y) := inferInstanceAs (Decidable (compare (· < ·) x y))
instance (x y : ExactTime) : Decidable (x ≤ y) := inferInstanceAs (Decidable (compare (· ≤ ·) x y))

theorem sameScale_number : SameScale number where
  zero := rfl
  add _ _ := rfl
  sub _ _ := rfl
  lt _ _ := Iff.rfl
  le _ _ := Iff.rfl

theorem add_undefined (x : ExactTime) : x + undefined = undefined := by
  cases x <;> rfl

theorem undefined_sub (x : ExactTime) : undefined - x = undefined := by
  cases x <;> rfl

theorem not_undefined_le (x : ExactTime) : ¬ undefined ≤ x := id

theorem not_undefined_lt (x : ExactTime) : ¬ undefined < x := id

end ExactTime

/-- a span in exact time, unless it is infinite -/
def Seconds.exactTime? : Seconds → Option ExactTime
  | .whole n => some (.number n)
  | .real .nan => some .undefined
  | .real x => x.ratio?.map fun r => .number (r.1 / r.2)

/-- the parcel of a payload in exact time -/
def Destination.exactParcel? (d : Destination) (payload : List UInt8) : Option (Parcel ExactTime) := do
  let timeout ← d.timeout.exactTime?
  let pause ← d.pause.exactTime?
  some ⟨d.address, payload, timeout, pause, d.timeout.datum⟩

/-! ## Senders that are always refused -/

section

variable {τ : Type}

/-- every attempt is refused by the system -/
def Peer.Closed (peer : Peer τ) : Prop := ∀ n now, ∃ f, peer.refusal n now = some f ∧ f.isSystem = true

variable [Add τ] [Sub τ] [OfNat τ 0] [LT τ] [LE τ] [DecidableLT τ] [DecidableLE τ]

/-- refused each time, a sender tries as often as it is watched, with a full pause behind every attempt -/
def Parcel.Endless (p : Parcel τ) : Prop := ∀ peer : Peer τ, peer.Closed → ∀ limit,
  (p.send peer limit).ending = none ∧ (p.send peer limit).attempts = limit ∧
    (p.send peer limit).pauses = List.replicate limit p.pause

/-- what is left never says that no time is left, nor cuts a pause short: a sender with it never ends -/
theorem Parcel.endless_of_left {p : Parcel τ} {remaining : τ} (hleft : ∀ (peer : Peer τ) now, p.left peer now = remaining)
    (hlate : ¬ remaining ≤ 0) (hshort : ¬ remaining < p.pause) : p.Endless := by
  intro peer hclosed limit
  obtain ⟨k, last, h⟩ := p.course_send peer limit
  rcases h.ends.of_refused (hclosed k (p.begins peer k)) with rfl | ⟨rfl, hnone⟩
  · obtain rfl := h.watched rfl
    have hfull : ∀ n ∈ List.range k, p.pauseAfter peer n = p.pause := by
      intro n _
      apply if_neg
      rw [hleft]
      exact hshort
    refine ⟨h.ending, h.attempts, ?_⟩
    rw [h.pauses, List.map_congr_left hfull, List.map_const', List.length_range]
    exact List.append_nil _
  · rw [hleft] at hnone
    exact absurd hnone hlate

end

namespace Parcel

/-- refused each time, a sender gives up after so many attempts at most, however long it is watched from then on -/
def EndsWithin (p : Parcel ExactTime) (n : Nat) : Prop := ∀ (peer : Peer ExactTime) (cost : ℚ), peer.cost = .number cost →
  0 ≤ cost → peer.Closed → ∃ s : Sending ExactTime, s.ending = some (.error p.unreachable) ∧ s.attempts ≤ n ∧
    ∀ limit, n ≤ limit → p.send peer limit = s

/-- what is no number leaves time for ever, -/
theorem endless_of_undefined {p : Parcel ExactTime} (h : p.timeout = .undefined) : p.Endless := by
  have hleft : ∀ (peer : Peer ExactTime) now, p.left peer now = .undefined := by
    intro peer now
    rw [left, deadline, h, ExactTime.add_undefined, ExactTime.undefined_sub]
  exact endless_of_left hleft (ExactTime.not_undefined_le 0) (ExactTime.not_undefined_lt p.pause)

/-- also as it is computed -/
theorem endless_of_nan {p : Parcel Binary64} (h : p.timeout = .nan) : p.Endless := by
  have hleft : ∀ (peer : Peer Binary64) now, p.left peer now = .nan := by
    intro peer now
    rw [left, deadline, h]
    rfl
  have hlate : ¬ Binary64.nan ≤ 0 := by decide
  have hshort : ¬ Binary64.nan < p.pause := by
    intro hlt
    cases hlt
  exact endless_of_left hleft hlate hshort

/-- **A number of seconds is a deadline**, as it is in rational time -/
theorem endsWithin_map {p : Parcel ℚ} (htimeout : 0 ≤ p.timeout) (hpause : 0 < p.pause) :
    (p.map ExactTime.number).EndsWithin (⌈p.timeout / p.pause⌉₊ + 1) := by
  intro peer cost hcost hnonneg hclosed
  have hrefuses : (peer.comap ExactTime.number cost).Refuses := fun n now => hclosed n (.number now)
  have hlimit := Nat.lt_succ_self ⌈p.timeout / p.pause⌉₊
  have hgivesUp := givesUp_send htimeout hpause hnonneg hrefuses hlimit
  have hending : (p.send (peer.comap ExactTime.number cost) (⌈p.timeout / p.pause⌉₊ + 1)).ending ≠ none := by
    rw [hgivesUp.ending]
    exact Option.some_ne_none _
  refine ⟨(p.send (peer.comap ExactTime.number cost) (⌈p.timeout / p.pause⌉₊ + 1)).map ExactTime.number, ?_, ?_, ?_⟩
  · rw [Sending.ending_map, hgivesUp.ending]
    rfl
  · rw [Sending.attempts_map, hgivesUp.attempts]
    exact Nat.succ_le_succ hgivesUp.few
  · intro limit hle
    rw [send_map ExactTime.sameScale_number hcost, send_of_le hending hle]

end Parcel

/-! ## Timeouts that are accepted -/

/-- what a timeout is to a sender of a payload with the default pause -/
structure Deadlines [Interpreter] (host : String) (port : Int) (timeout : Seconds) (payload : List UInt8) : Prop where
  /-- a number is a deadline -/
  ends : timeout ≠ .real .nan → ∃ q p, 0 ≤ q ∧ timeout.exactTime? = some (.number q) ∧
    Destination.exactParcel? ⟨host, port, timeout, Destination.defaultPause⟩ payload = some p ∧ p.EndsWithin (⌈q⌉₊ + 1)
  /-- what is no number is none -/
  endless : timeout = .real .nan →
    (∃ p, Destination.exactParcel? ⟨host, port, timeout, Destination.defaultPause⟩ payload = some p ∧ p.Endless) ∧
    ∀ fs, Finding.encode fs = .ok payload →
      ∃ p, Destination.parcel ⟨host, port, timeout, Destination.defaultPause⟩ fs = .ok p ∧ p.Endless
  /-- a number beyond the reals that time is computed with is not begun with -/
  beyond : ∀ f peer refusals fs, timeout.toReal = .error f → Finding.encode fs = .ok payload →
    Destination.send ⟨host, port, timeout, Destination.defaultPause⟩ peer refusals fs = ⟨[], some (.error .beyondReals)⟩

theorem exact_defaultPause : Destination.defaultPause.exactTime? = some (.number 1) := by
  have hone : Binary64.ofInt 1 = .finite false (2 ^ 52) (-52) := by decide +kernel
  have hratio : (Binary64.finite false (2 ^ 52) (-52)).ratio? = some (2 ^ 52, 2 ^ 52) := by decide +kernel
  rw [Destination.defaultPause, hone, Seconds.exactTime?, hratio]
  · norm_num
  · nofun

/-- a finite number that is not before zero, in exact time -/
theorem exists_exact_finite {negative : Bool} {m : Nat} {e : Int} (h : ¬ Binary64.finite negative m e < 0) :
    ∃ q, 0 ≤ q ∧ (Seconds.real (.finite negative m e)).exactTime? = some (.number q) := by
  obtain ⟨n, k, hratio, -, -, hnegative⟩ := Settings.exists_ratio negative m e
  -- a zero with a minus sign is not before zero, and its quotient is zero like that of any other
  have hn : 0 ≤ n := not_lt.1 fun hlt => h (Settings.finite_lt_zero_iff.2 (hnegative.1 hlt))
  refine ⟨n / k, div_nonneg (Int.cast_nonneg hn) (Nat.cast_nonneg k), ?_⟩
  rw [Seconds.exactTime?, hratio]
  · rfl
  · nofun

/-- **A timeout that is not before zero** is a number of seconds, unless it is infinite or no number -/
theorem exists_exact {timeout : Seconds} (h : timeout.isNegative = false) (hfinite : timeout ≠ .real (.infinite false))
    (hnumber : timeout ≠ .real .nan) : ∃ q, 0 ≤ q ∧ timeout.exactTime? = some (.number q) := by
  cases timeout with
  | whole n =>
    have hn : 0 ≤ n := not_lt.1 (of_decide_eq_false h)
    exact ⟨n, Int.cast_nonneg hn, rfl⟩
  | real x =>
    have hx : ¬ x < 0 := of_decide_eq_false h
    cases x with
    | nan => exact absurd rfl hnumber
    | infinite negative =>
      cases negative with
      | false => exact absurd rfl hfinite
      | true => exact absurd rfl hx
    | finite negative m e => exact exists_exact_finite hx

/-- only a number beyond them is no real -/
theorem eq_beyondReals {timeout : Seconds} {f : Failure} (h : timeout.toReal = .error f) : f = .beyondReals := by
  unfold Seconds.toReal at h
  split at h
  · cases h
  · split at h
    · exact (Except.error.inj h).symm
    · cases h

theorem deadlines_of_not_isNegative [Interpreter] {timeout : Seconds} (h : timeout.isNegative = false)
    (hfinite : timeout ≠ .real (.infinite false)) (host : String) (port : Int) (payload : List UInt8) :
    Deadlines host port timeout payload where
  ends hnumber := by
    obtain ⟨q, hq, hexact⟩ := exists_exact h hfinite hnumber
    let p : Parcel ℚ :=
      ⟨Destination.address ⟨host, port, timeout, Destination.defaultPause⟩, payload, q, 1, timeout.datum⟩
    have hparcel : Destination.exactParcel? ⟨host, port, timeout, Destination.defaultPause⟩ payload =
        some (p.map ExactTime.number) := by
      simp only [Destination.exactParcel?, hexact, exact_defaultPause]
      rfl
    have hends := Parcel.endsWithin_map (p := p) hq one_pos
    have hpause : p.timeout / p.pause = q := div_one q
    rw [hpause] at hends
    exact ⟨q, p.map ExactTime.number, hq, hexact, hparcel, hends⟩
  endless hnan := by
    subst hnan
    constructor
    · have hparcel : Destination.exactParcel? ⟨host, port, .real .nan, Destination.defaultPause⟩ payload =
          some ⟨Destination.address ⟨host, port, .real .nan, Destination.defaultPause⟩, payload, .undefined, .number 1,
            .real .nan⟩ := by
        simp only [Destination.exactParcel?, exact_defaultPause]
        rfl
      exact ⟨_, hparcel, Parcel.endless_of_undefined rfl⟩
    · intro fs hencode
      have hparcel : Destination.parcel ⟨host, port, .real .nan, Destination.defaultPause⟩ fs =
          .ok ⟨Destination.address ⟨host, port, .real .nan, Destination.defaultPause⟩, payload, .nan, .ofInt 1,
            .real .nan⟩ := by
        rw [Destination.parcel, hencode]
        rfl
      exact ⟨_, hparcel, Parcel.endless_of_nan rfl⟩
  beyond f peer refusals fs hbeyond hencode := by
    obtain rfl := eq_beyondReals hbeyond
    rw [Destination.send, Destination.parcel, hencode, ok_bind, hbeyond]
    rfl

namespace Settings

section

variable [Interpreter]

/-- a timeout that is accepted is not before zero -/
theorem isNegative_sendTimeout {members : List (String × Datum)} {s : Settings} (h : ofMembers members = .ok s) :
    s.sendTimeout.isNegative = false := by
  have hvalues : ofValues (valueIn members) = .ok s := by
    unfold ofMembers at h
    split at h
    · cases h
    · exact h
  obtain ⟨hbroken, -, rfl⟩ := ofValues_eq_ok.1 hvalues
  have hmem : (⟨!(made (valueIn members)).sendTimeout.isNegative, "send_timeout_seconds",
      (made (valueIn members)).sendTimeout.datum, "must be non-negative"⟩ : Constraint) ∈ constraints (valueIn members) :=
    List.mem_append_left _ (List.mem_append_right _ (by simp [valueConstraints, made]))
  have hholds := firstBroken?_eq_none.1 hbroken _ hmem
  simpa using hholds

/-- **A timeout that is accepted is a deadline**, unless it is infinite or no number -/
theorem deadlines_accepted {members : List (String × Datum)} {s : Settings} (h : ofMembers members = .ok s)
    (hfinite : s.sendTimeout ≠ .real (.infinite false)) (host : String) (port : Int) (payload : List UInt8) :
    Deadlines host port s.sendTimeout payload :=
  deadlines_of_not_isNegative (isNegative_sendTimeout h) hfinite host port payload

end

theorem deadlines_accepted_unhurried : letI : Interpreter := .usual
    ∃ s,
    ofMembers [("send_timeout_seconds", .real (.ofDecimal false 25 (-1)))] = .ok s ∧
      s.sendTimeout ≠ .real (.infinite false) ∧ Deadlines "127.0.0.1" 48123 s.sendTimeout [] := by
  let : Interpreter := .usual
  have hmade : ofMembers [("send_timeout_seconds", .real (.ofDecimal false 25 (-1)))] =
      .ok (Analysis.settingsOf [("send_timeout_seconds", .real (.ofDecimal false 25 (-1)))]) :=
    Analysis.ofValues_settingsOf (by decide +kernel) (by decide +kernel)
  have hfinite : (Analysis.settingsOf [("send_timeout_seconds", .real (.ofDecimal false 25 (-1)))]).sendTimeout ≠
      .real (.infinite false) := by decide +kernel
  exact ⟨_, hmade, hfinite, deadlines_accepted hmade hfinite "127.0.0.1" 48123 []⟩

/-- someone who refuses every attempt at once -/
def refusing : Peer ExactTime := ⟨fun _ _ => some (.system "ConnectionRefusedError" "refused"), .number 0, true, none⟩

/-- **A timeout that is no number is accepted**, and a sender with it that is always refused never ends -/
theorem nan_never_ends : letI : Interpreter := .usual
    ∃ s, ofMembers [("send_timeout_seconds", .real .nan)] = .ok s ∧
    s.sendTimeout ≠ .real (.infinite false) ∧
    ∃ p, Destination.exactParcel? ⟨s.transportHost, s.transportPort, s.sendTimeout, Destination.defaultPause⟩ [] = some p ∧
      ∀ limit, (p.send refusing limit).ending = none ∧ (p.send refusing limit).attempts = limit := by
  let : Interpreter := .usual
  have hmade : ofMembers [("send_timeout_seconds", .real .nan)] =
      .ok (Analysis.settingsOf [("send_timeout_seconds", .real .nan)]) :=
    Analysis.ofValues_settingsOf (by decide +kernel) (by decide +kernel)
  have hdeadlines := deadlines_of_not_isNegative (isNegative_sendTimeout hmade) (by decide +kernel) "127.0.0.1" 48123 []
  obtain ⟨p, hp, hendless⟩ := (hdeadlines.endless rfl).1
  refine ⟨_, hmade, by decide +kernel, p, hp, fun limit => ?_⟩
  obtain ⟨hending, hattempts, -⟩ := hendless refusing (fun _ _ => ⟨_, rfl, rfl⟩) limit
  exact ⟨hending, hattempts⟩

end Settings

end ChangeLint
