/-
Sending on another scale of time.

A sender adds spans of time, subtracts them and compares them, and does nothing else with them. So a map between two scales
of time under which sums, differences and comparisons stay (`SameScale`) takes all that is sent on one scale to what is sent
on the other (`send_map`): the attempts are the same and end in the same way, and each pause is taken to its image.
-/
import ChangeLint.Delivery.Sender
import Mathlib.Tactic.SplitIfs

namespace ChangeLint

variable {τ σ : Type}

/-- a step, with the pauses taken to another scale -/
def Sending.Step.map (φ : τ → σ) : Sending.Step τ → Sending.Step σ
  | .event e => .event e
  | .attempt => .attempt
  | .pause d => .pause (φ d)

/-- sending, with the pauses taken to another scale -/
def Sending.map (φ : τ → σ) (s : Sending τ) : Sending σ := ⟨s.steps.map (Sending.Step.map φ), s.ending⟩

/-- the same parcel on another scale -/
def Parcel.map (φ : τ → σ) (p : Parcel τ) : Parcel σ := ⟨p.address, p.payload, φ p.timeout, φ p.pause, p.timeoutTold⟩

/-- an other end as it is met from a scale that is taken to its own, where attempts take so long -/
def Peer.comap (φ : τ → σ) (cost : τ) (peer : Peer σ) : Peer τ :=
  ⟨fun n now => peer.refusal n (φ now), cost, peer.takesEnd, peer.drainFailure⟩

@[simp] theorem Sending.ending_map (φ : τ → σ) (s : Sending τ) : (s.map φ).ending = s.ending := rfl

@[simp] theorem Sending.attempts_map (φ : τ → σ) (s : Sending τ) : (s.map φ).attempts = s.attempts := by
  rw [map, attempts, attempts, List.countP_map]
  congr 1
  funext step
  cases step <;> rfl

theorem Parcel.transmit_map (φ : τ → σ) (cost : τ) (p : Parcel τ) (peer : Peer σ) :
    (p.map φ).transmit peer = p.transmit (peer.comap φ cost) := rfl

variable [Add τ] [Sub τ] [OfNat τ 0] [LT τ] [LE τ] [DecidableLT τ] [DecidableLE τ]
  [Add σ] [Sub σ] [OfNat σ 0] [LT σ] [LE σ] [DecidableLT σ] [DecidableLE σ]

/-- sums, differences and comparisons are the same on two scales -/
structure SameScale (φ : τ → σ) : Prop where
  zero : φ 0 = 0
  add : ∀ a b, φ (a + b) = φ a + φ b
  sub : ∀ a b, φ (a - b) = φ a - φ b
  lt : ∀ a b, φ a < φ b ↔ a < b
  le : ∀ a b, φ a ≤ φ b ↔ a ≤ b

namespace Parcel

variable {φ : τ → σ} {p : Parcel τ} {peer : Peer σ} {cost : τ}

omit [DecidableLE τ] [DecidableLE σ] in
theorem pauseWithin_map (h : SameScale φ) (p : Parcel τ) (remaining : τ) :
    (p.map φ).pauseWithin (φ remaining) = φ (p.pauseWithin remaining) := by
  have hlt : φ remaining < (p.map φ).pause ↔ remaining < p.pause := h.lt remaining p.pause
  unfold pauseWithin
  by_cases hshort : remaining < p.pause
  · rw [if_pos hshort, if_pos (hlt.2 hshort)]
  · rw [if_neg hshort, if_neg (mt hlt.1 hshort)]
    rfl

/-- from some attempt on: by induction on the attempts that are watched, with one attempt at a time -/
theorem attemptsFrom_map (h : SameScale φ) (hcost : peer.cost = φ cost) (deadline : τ) (limit n : Nat) (now : τ) :
    (p.map φ).attemptsFrom peer (φ deadline) limit n (φ now) =
      (p.attemptsFrom (peer.comap φ cost) deadline limit n now).map φ := by
  induction limit generalizing n now with
  | zero => rfl
  | succ limit ih =>
    have hcomap : (peer.comap φ cost).refusal n now = peer.refusal n (φ now) := rfl
    simp only [attemptsFrom, hcomap]
    cases peer.refusal n (φ now) with
    | none =>
      dsimp only
      rw [transmit_map φ cost]
      simp [Sending.map, Sending.Step.map, Parcel.map, List.map_map, Function.comp_def]
    | some f =>
      have hlater : φ now + peer.cost = φ (now + (peer.comap φ cost).cost) := by
        rw [hcost, ← h.add]
        rfl
      have hremaining : φ deadline - φ (now + (peer.comap φ cost).cost) = φ (deadline - (now + (peer.comap φ cost).cost)) :=
        (h.sub _ _).symm
      have hle : ∀ a, φ a ≤ 0 ↔ a ≤ 0 := fun a => by rw [← h.zero, h.le]
      dsimp only
      rw [hlater, hremaining, pauseWithin_map h, ← h.add, ih]
      simp only [hle]
      split_ifs <;> rfl

/-- **Sending is the same on two scales of time** -/
theorem send_map (h : SameScale φ) (hcost : peer.cost = φ cost) (limit : Nat) :
    (p.map φ).send peer limit = (p.send (peer.comap φ cost) limit).map φ := by
  have hdeadline : 0 + (p.map φ).timeout = φ (0 + p.timeout) := by
    rw [h.add, h.zero]
    rfl
  have hrun := attemptsFrom_map h hcost (0 + p.timeout) limit 0 0 (p := p)
  rwa [← hdeadline, h.zero] at hrun

end Parcel

end ChangeLint
