/-
Steps of a receiver: sessions are started, receives begin, payloads come in complete, tokens are set. What comes in at one
instant is one step, so that a payload and the token may race.

`Receive.due` is what a receive comes to: with a payload it ends as the first one is decoded, without one as cancelled
once its token is set, and else it waits. `settle_due`: a receive that is pending comes to that, and closes the receiver if
it ends. `takeAll_eq`: the first payload fixes an open result.
-/
import ChangeLint.Proofs.Delivery.Receiver
import Mathlib.Tactic

namespace ChangeLint.Receiver

/-! ## Steps -/

section

variable [Interpreter]

/-- what happens to a receiver at one instant; binding succeeds -/
inductive Step
  /-- a start; the port that is bound, if it is -/
  | start (bound : Option Int)
  /-- a receive begins, with a token that is set or not, or without one -/
  | receive (bound : Option Int) (token : Option Bool)
  /-- payloads come in complete, in order, and the token of the pending receive may be set -/
  | arrive (payloads : List (List UInt8)) (token : Bool)

/-- a payload that is findings, or is refused because it is none -/
def Readable (bytes : List UInt8) : Prop :=
  (∃ fs, Finding.decode bytes = .ok fs) ∨
    ∃ reason size, Finding.decode bytes = .error (.fault (.undecodable reason size))

/-- payloads have come in complete, in order, and no receive has taken note yet -/
def takeAll (r : Receiver) (payloads : List (List UInt8)) : Receiver := payloads.foldl (fun r bytes => (r.take bytes).1) r

/-- the token is set or not, and no receive has taken note yet -/
def mark (r : Receiver) (token : Bool) : Receiver :=
  if token then { r with receives := setLast r.receives } else r

/-- a step -/
def step (r : Receiver) : Step → Receiver
  | .start bound => (r.start fun _ => .ok bound).1
  | .receive bound token => (r.receiveWith (fun _ => .ok bound) token).1
  | .arrive payloads token => ((r.takeAll payloads).mark token).settle.1

/-- one receive at a time, and payloads that are findings or not -/
def Allowed (r : Receiver) : Step → Prop
  | .start _ => True
  | .receive _ _ => ∀ x ∈ r.receives, x.isPending = false
  | .arrive payloads _ => ∀ bytes ∈ payloads, Readable bytes

/-- every step is allowed where it is made -/
def Legal (r : Receiver) : List Step → Prop
  | [] => True
  | s :: ss => Allowed r s ∧ Legal (r.step s) ss

/-- `Readable` of what a payload is decoded to, as a test -/
def isReadable : Except Failure (List Finding) → Bool
  | .ok _ => true
  | .error (.fault (.undecodable _ _)) => true
  | .error _ => false

theorem readable_iff (bytes : List UInt8) : Readable bytes ↔ isReadable (Finding.decode bytes) = true := by
  unfold Readable
  generalize Finding.decode bytes = decoded
  cases decoded with
  | ok fs => exact ⟨fun _ => rfl, fun _ => Or.inl ⟨fs, rfl⟩⟩
  | error f =>
    refine ⟨fun h => ?_, fun h => Or.inr ?_⟩
    · obtain ⟨fs, hfs⟩ | ⟨reason, size, hf⟩ := h
      · cases hfs
      · cases hf
        rfl
    · unfold isReadable at h
      split at h
      · rename_i hok
        cases hok
      · rename_i reason size hf
        exact ⟨reason, size, hf⟩
      · cases h

instance (bytes : List UInt8) : Decidable (Readable bytes) := decidable_of_iff _ (readable_iff bytes).symm

instance (r : Receiver) : (s : Step) → Decidable (Allowed r s)
  | .start _ => .isTrue trivial
  | .receive _ _ => inferInstanceAs (Decidable (∀ x ∈ r.receives, x.isPending = false))
  | .arrive payloads _ => inferInstanceAs (Decidable (∀ bytes ∈ payloads, Readable bytes))

instance instDecidableLegal (r : Receiver) : (steps : List Step) → Decidable (Legal r steps)
  | [] => .isTrue trivial
  | s :: steps => @instDecidableAnd _ _ inferInstance (instDecidableLegal (r.step s) steps)

end

variable {r : Receiver} {bytes : List UInt8} {payloads : List (List UInt8)} {receives old : List Receive}
  {token : Option Bool}

/-! ## What is due -/

/-- the result that a payload means when it is decoded -/
def Result.ofDecoded : Except Failure (List Finding) → Result
  | .ok fs => .found fs
  | .error f => .refused f

/-- the result of a session, from the payloads that came in to it -/
def Result.ofFirst [Interpreter] : List (List UInt8) → Result
  | [] => .open
  | bytes :: _ => .ofDecoded (Finding.decode bytes)

/-- what a receive has come to, by its token and by the payloads of its session -/
def Receive.due [Interpreter] (token : Option Bool) : List (List UInt8) → Receive
  | bytes :: _ => .ended (Finding.decode bytes)
  | [] => if token = some true then .ended (.error (.fault .receiveCancelled)) else .pending token

/-- true when no receive is pending -/
def AllEnded (receives : List Receive) : Prop := ∀ x ∈ receives, x.isPending = false

/-- the receives that have ended -/
def ended (receives : List Receive) : Nat := receives.countP fun x => !x.isPending

theorem ending?_ofDecoded (decoded : Except Failure (List Finding)) :
    (Result.ofDecoded decoded).ending? = some decoded := by
  cases decoded <;> rfl

theorem ofDecoded_ne_open (decoded : Except Failure (List Finding)) : some (Result.ofDecoded decoded) ≠ some .open := by
  cases decoded <;> simp [Result.ofDecoded]

theorem AllEnded.append_singleton (h : AllEnded old) {x : Receive} (hx : x.isPending = false) : AllEnded (old ++ [x]) := by
  intro y hy
  rcases List.mem_append.1 hy with hy | hy
  · exact h y hy
  · rw [List.mem_singleton.1 hy]
    exact hx

theorem ended_eq_length (h : AllEnded receives) : ended receives = receives.length := by
  rw [ended, List.countP_eq_length]
  exact fun x hx => by simp [h x hx]

theorem ended_append_pending (h : AllEnded old) (token : Option Bool) : ended (old ++ [.pending token]) = old.length := by
  rw [ended, List.countP_append]
  exact ended_eq_length h

section

variable [Interpreter]

theorem ofPayload_eq (h : Readable bytes) : Result.ofPayload bytes = .ok (Result.ofFirst [bytes]) := by
  rcases h with ⟨fs, hfs⟩ | ⟨reason, size, hf⟩
  · simp only [Result.ofPayload, Result.ofFirst, hfs, Result.ofDecoded]
  · simp only [Result.ofPayload, Result.ofFirst, hf, Result.ofDecoded]

/-- with the result of its session at hand a receive comes to what is due -/
theorem settle_eq_due (token : Option Bool) (payloads : List (List UInt8)) :
    (Receive.pending token).settle (some (Result.ofFirst payloads)) = Receive.due token payloads := by
  cases payloads with
  | nil => rfl
  | cons bytes payloads =>
    simp only [Receive.settle, Option.bind_some, Result.ofFirst, ending?_ofDecoded, Receive.due]

theorem due_of_isPending (h : (Receive.due token payloads).isPending = true) :
    payloads = [] ∧ token ≠ some true ∧ Receive.due token payloads = .pending token := by
  cases payloads with
  | nil =>
    by_cases htoken : token = some true
    · simp [Receive.due, htoken, Receive.isPending] at h
    · exact ⟨rfl, htoken, if_neg htoken⟩
  | cons bytes payloads => cases h

/-! ## Payloads and tokens -/

/-- a fixed result stays -/
theorem takeAll_of_ne_open (h : r.result ≠ some .open) (payloads : List (List UInt8)) : r.takeAll payloads = r := by
  induction payloads with
  | nil => rfl
  | cons bytes payloads ih =>
    have htake : (r.take bytes).1 = r := by
      unfold take
      split
      · rename_i hopen
        exact absurd hopen h
      · rfl
    rw [takeAll, List.foldl_cons, htake]
    exact ih

/-- **The first payload of a session fixes its result** -/
theorem takeAll_eq {before : List (List UInt8)} (h : r.result = some (Result.ofFirst before))
    (hreadable : ∀ bytes ∈ payloads, Readable bytes) :
    r.takeAll payloads = { r with result := some (Result.ofFirst (before ++ payloads)) } := by
  cases before with
  | cons first before =>
    rw [takeAll_of_ne_open (h ▸ ofDecoded_ne_open (Finding.decode first)), List.cons_append]
    obtain ⟨host, port, listening, result, receives⟩ := r
    exact congrArg (Receiver.mk host port listening · receives) h
  | nil =>
    cases payloads with
    | nil =>
      obtain ⟨host, port, listening, result, receives⟩ := r
      exact congrArg (Receiver.mk host port listening · receives) h
    | cons bytes payloads =>
      have htake : (r.take bytes).1 = { r with result := some (Result.ofFirst [bytes]) } := by
        have hopen : r.result = some .open := h
        simp only [take, hopen, ofPayload_eq (hreadable bytes List.mem_cons_self)]
      rw [takeAll, List.foldl_cons, htake]
      exact takeAll_of_ne_open (ofDecoded_ne_open (Finding.decode bytes)) payloads

end

theorem setLast_of_allEnded (h : AllEnded receives) : setLast receives = receives := by
  induction receives with
  | nil => rfl
  | cons x receives ih =>
    have hrest := ih fun y hy => h y (List.mem_cons_of_mem x hy)
    cases x with
    | pending token => cases h _ List.mem_cons_self
    | ended e => simp only [setLast, hrest]

/-- setting the token of the receive that waits -/
theorem setLast_append_pending (h : AllEnded old) (token : Option Bool) :
    setLast (old ++ [.pending token]) = old ++ [.pending (token.map fun _ => true)] := by
  induction old with
  | nil => cases token <;> rfl
  | cons x old ih =>
    have hrest := ih fun y hy => h y (List.mem_cons_of_mem x hy)
    cases x with
    | pending token => cases h _ List.mem_cons_self
    | ended e => simp only [List.cons_append, setLast, hrest]

/-! ## Settling -/

theorem settle_of_allEnded (h : AllEnded r.receives) : r.settle = (r, []) := by
  have hmap : r.receives.map (Receive.settle r.result) = r.receives := by
    rw [List.map_congr_left fun x hx => settle_eq_self (h x hx) r.result, List.map_id']
  unfold settle
  simp only [hmap, lt_irrefl, if_false]

/-- a receiver with one receive that is pending, settled: it has come to what is due. If it has ended, the receiver is
closed, and else nothing has changed. -/
theorem settle_due [Interpreter] (hresult : r.result = some (Result.ofFirst payloads))
    (hreceives : r.receives = old ++ [.pending token])
    (hold : AllEnded old) :
    r.settle.1 = if (Receive.due token payloads).isPending then r
      else { r.stop.1 with receives := old ++ [Receive.due token payloads] } := by
  have hmap : r.receives.map (Receive.settle r.result) = old ++ [Receive.due token payloads] := by
    rw [hreceives, hresult, List.map_append, List.map_singleton, settle_eq_due,
      List.map_congr_left fun x hx => settle_eq_self (hold x hx) _, List.map_id']
  have hzero : old.countP Receive.isPending = 0 := List.countP_eq_zero.2 fun x hx => by simp [hold x hx]
  have hbefore : r.receives.countP Receive.isPending = 1 := by
    rw [hreceives, List.countP_append, hzero]
    rfl
  by_cases hdue : (Receive.due token payloads).isPending = true
  · have hafter : (old ++ [Receive.due token payloads]).countP Receive.isPending = 1 := by
      simp [List.countP_append, hzero, hdue]
    unfold settle
    simp only [hmap, hbefore, hafter, lt_irrefl, if_false, hdue, if_true]
  · have hended : AllEnded (old ++ [Receive.due token payloads]) := hold.append_singleton (by simpa using hdue)
    have hafter : (old ++ [Receive.due token payloads]).countP Receive.isPending = 0 :=
      List.countP_eq_zero.2 fun x hx => by simp [hended x hx]
    have hagain : (old ++ [Receive.due token payloads]).map (Receive.settle r.stop.1.result) =
        old ++ [Receive.due token payloads] := by
      rw [List.map_congr_left fun x hx => settle_eq_self (hended x hx) _, List.map_id']
    unfold settle
    simp only [hmap, hbefore, hafter, Nat.zero_lt_one, if_true, hdue, hagain]
    rfl

/-! ## Starts -/

theorem start_of_listening (h : r.listening = true) (bind : Binding) : r.start bind = (r, pure r.port) := by
  rw [start, if_pos h]

/-- a start that binds a port begins a session -/
theorem start_of_not_listening (h : r.listening = false) (bound : Option Int) :
    (r.start fun _ => .ok bound).1 = { r with result := some .open, listening := true, port := bound.getD r.port } ∧
      (r.start fun _ => .ok bound).2.result = .ok (bound.getD r.port) := by
  unfold start
  simp [h]

/-- a start that binds a port, or finds one bound, answers the port of the receiver -/
theorem result_start (r : Receiver) (bound : Option Int) :
    (r.start fun _ => .ok bound).2.result = .ok (r.start fun _ => .ok bound).1.port := by
  cases h : r.listening with
  | true => rw [start_of_listening h]; rfl
  | false =>
    obtain ⟨hstart, hresult⟩ := start_of_not_listening h bound
    rw [hresult, hstart]

/-- a receive starts a session unless one is on; then it is pending, until it settles -/
theorem receiveWith_eq (r : Receiver) (bound token : Option _) :
    (r.receiveWith (fun _ => .ok bound) token).1 =
      ({ (r.start fun _ => .ok bound).1 with
        receives := (r.start fun _ => .ok bound).1.receives ++ [.pending token] } : Receiver).settle.1 := by
  unfold receiveWith settled
  simp only [result_start]

end ChangeLint.Receiver
