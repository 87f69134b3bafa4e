/-
Reading a connection to its end.

Bytes come in by chunks, and the reader takes them out in blocks of a limited size, in its own time; it has read everything
when it finds nothing left after the end. Chunks and blocks may be cut anywhere, also within a character.

Results:
- `held_run`: at any time, the blocks and what is left over make up what has come in;
- `payload?_run`: what was read to the end is what was put in, whatever the chunks, the blocks and the order of events;
- `payload?_of_takes`: once the end has come in, the reader needs only go on.
-/
import Mathlib.Data.List.Basic
import Mathlib.Tactic

namespace ChangeLint

/-- a connection that is being read: the blocks that were taken, what is left over, whether the end has come in, and whether
the reader has found it -/
structure Stream where
  blocks : List (List UInt8)
  rest : List UInt8
  hasEnd : Bool
  isRead : Bool

namespace Stream

/-- what happens on a connection -/
inductive Move
  | chunk (bytes : List UInt8)
  | finish
  | take

/-- a connection on which nothing has happened -/
def empty : Stream := ⟨[], [], false, false⟩

/-- the next move, with blocks of a limited size; nothing comes in after the end -/
def step (limit : Nat) (s : Stream) : Move → Stream
  | .chunk bytes => if s.hasEnd then s else { s with rest := s.rest ++ bytes }
  | .finish => { s with hasEnd := true }
  | .take =>
    if s.rest.isEmpty then (if s.hasEnd then { s with isRead := true } else s)
    else { s with blocks := s.blocks ++ [s.rest.take limit], rest := s.rest.drop limit }

def run (limit : Nat) (s : Stream) (moves : List Move) : Stream := moves.foldl (step limit) s

/-- what the reader returns, once it has found the end -/
def payload? (s : Stream) : Option (List UInt8) := if s.isRead then some s.blocks.flatten else none

/-- what comes in before the end -/
def entered : List Move → List UInt8
  | [] => []
  | .chunk bytes :: moves => bytes ++ entered moves
  | .finish :: _ => []
  | .take :: moves => entered moves

variable {limit : Nat} {s : Stream} {moves more : List Move} {m : Move} {bytes : List UInt8}

/-- all that has come in -/
def held (s : Stream) : List UInt8 := s.blocks.flatten ++ s.rest

/-- the reader finds the end only when it has come in and nothing is left over -/
structure Inv (s : Stream) : Prop where
  finished : s.isRead = true → s.hasEnd = true
  read : s.isRead = true → s.rest = []

theorem run_append (limit : Nat) (s : Stream) (moves more : List Move) :
    s.run limit (moves ++ more) = (s.run limit moves).run limit more := List.foldl_append

theorem inv_empty : Inv empty := ⟨nofun, nofun⟩

theorem inv_step (h : Inv s) (m : Move) : Inv (s.step limit m) := by
  cases m with
  | chunk bytes =>
    unfold step
    dsimp only
    split_ifs with hend
    · exact h
    · exact ⟨h.finished, fun hread => absurd (h.finished hread) hend⟩
  | finish => exact ⟨fun _ => rfl, h.read⟩
  | take =>
    unfold step
    dsimp only
    split_ifs with hempty hend
    · exact ⟨fun _ => hend, fun _ => List.isEmpty_iff.1 hempty⟩
    · exact h
    · exact ⟨h.finished, fun hread => by rw [h.read hread, List.drop_nil]⟩

theorem inv_run (h : Inv s) (moves : List Move) : Inv (s.run limit moves) := by
  induction moves generalizing s with
  | nil => exact h
  | cons m moves ih => exact ih (inv_step h m)

/-- taking a block moves bytes, and changes none -/
theorem held_take (s : Stream) : (s.step limit .take).held = s.held := by
  unfold step held
  dsimp only
  split_ifs
  · rfl
  · rfl
  · rw [List.flatten_append, List.flatten_singleton, List.append_assoc, List.take_append_drop]

theorem run_of_hasEnd (h : s.hasEnd = true) (moves : List Move) :
    (s.run limit moves).held = s.held ∧ (s.run limit moves).hasEnd = true := by
  induction moves generalizing s with
  | nil => exact ⟨rfl, h⟩
  | cons m moves ih =>
    have hstep : (s.step limit m).held = s.held ∧ (s.step limit m).hasEnd = true := by
      cases m with
      | chunk bytes => simp [step, h]
      | finish => exact ⟨rfl, rfl⟩
      | take =>
        refine ⟨held_take s, ?_⟩
        unfold step
        dsimp only
        split_ifs
        · exact h
        · exact h
    obtain ⟨hbytes, hend⟩ := ih hstep.2
    exact ⟨hbytes.trans hstep.1, hend⟩

/-- **The blocks and what is left over make up what has come in** -/
theorem held_run (h : s.hasEnd = false) (moves : List Move) :
    (s.run limit moves).held = s.held ++ entered moves := by
  induction moves generalizing s with
  | nil => exact (List.append_nil _).symm
  | cons m moves ih =>
    cases m with
    | chunk bytes =>
      have hstep : s.step limit (.chunk bytes) = { s with rest := s.rest ++ bytes } := if_neg (by simp [h])
      have hrun := @ih (s.step limit (.chunk bytes)) (by rw [hstep]; exact h)
      rw [hstep] at hrun
      rw [run, List.foldl_cons, ← run, hstep, hrun, entered]
      simp [held]
    | finish =>
      rw [entered, List.append_nil]
      exact (run_of_hasEnd (s := s.step limit .finish) rfl moves).1
    | take =>
      have hend : (s.step limit .take).hasEnd = false := by
        simp only [step, h, Bool.false_eq_true, if_false]
        split_ifs
        · exact h
        · rfl
      exact (ih hend).trans (by rw [held_take, entered])

/-- **What was read to the end is what was put in**, whatever the chunks, the blocks and the order of events -/
theorem payload?_run (h : (empty.run limit moves).payload? = some bytes) : bytes = entered moves := by
  unfold payload? at h
  split_ifs at h with hread
  cases h
  have hall := @held_run limit empty rfl moves
  have hrest := (inv_run inv_empty moves).read hread
  rw [held, hrest, List.append_nil] at hall
  exact hall

theorem isRead_run (h : s.isRead = true) (moves : List Move) : (s.run limit moves).isRead = true := by
  induction moves generalizing s with
  | nil => exact h
  | cons m moves ih =>
    refine ih ?_
    cases m with
    | chunk bytes =>
      unfold step
      dsimp only
      split_ifs
      · exact h
      · exact h
    | finish => exact h
    | take =>
      unfold step
      dsimp only
      split_ifs
      · rfl
      · exact h
      · exact h

theorem hasEnd_run (h : .finish ∈ moves) : (s.run limit moves).hasEnd = true := by
  obtain ⟨before, after, rfl⟩ := List.append_of_mem h
  rw [run_append]
  exact (run_of_hasEnd (s := (s.run limit before).step limit .finish) rfl after).2

/-- after the end, each take leaves less over, until the reader finds the end -/
theorem isRead_takes (hlimit : 0 < limit) (hend : s.hasEnd = true) {n : Nat} (hn : s.rest.length < n) :
    (s.run limit (List.replicate n .take)).isRead = true := by
  induction n generalizing s with
  | zero => omega
  | succ n ih =>
    rw [List.replicate_succ, run, List.foldl_cons, ← run]
    cases hrest : s.rest with
    | nil =>
      have hstep : s.step limit .take = { s with isRead := true } := by simp [step, hrest, hend]
      rw [hstep]
      exact isRead_run rfl _
    | cons b rest =>
      have hstep : s.step limit .take = { s with blocks := s.blocks ++ [s.rest.take limit], rest := s.rest.drop limit } := by
        simp [step, hrest]
      rw [hstep]
      refine ih hend ?_
      rw [List.length_drop]
      rw [hrest, List.length_cons] at hn ⊢
      omega

theorem entered_append (h : .finish ∈ moves) (more : List Move) : entered (moves ++ more) = entered moves := by
  induction moves with
  | nil => cases h
  | cons m moves ih =>
    cases m with
    | chunk bytes =>
      have hrest : .finish ∈ moves := by simpa using h
      rw [List.cons_append, entered, entered, ih hrest]
    | finish => rfl
    | take =>
      have hrest : .finish ∈ moves := by simpa using h
      rw [List.cons_append, entered, entered, ih hrest]

/-- **Once the end has come in, the reader needs only go on** to return what was put in -/
theorem payload?_of_takes (hlimit : 0 < limit) (h : .finish ∈ moves) :
    (empty.run limit (moves ++ List.replicate ((entered moves).length + 1) .take)).payload? = some (entered moves) := by
  have hheld := @held_run limit empty rfl moves
  have hlength : ((empty.run limit moves).rest).length < (entered moves).length + 1 := by
    have hcount := congrArg List.length hheld
    simp only [held, List.length_append, empty, List.flatten_nil, List.length_nil] at hcount
    simp only [empty]
    omega
  have hread : (empty.run limit (moves ++ List.replicate ((entered moves).length + 1) .take)).isRead = true := by
    rw [run_append]
    exact isRead_takes hlimit (hasEnd_run h) hlength
  have hpayload : (empty.run limit (moves ++ List.replicate ((entered moves).length + 1) .take)).payload? = some _ :=
    if_pos hread
  rw [hpayload, payload?_run hpayload, entered_append h]

end Stream

end ChangeLint
