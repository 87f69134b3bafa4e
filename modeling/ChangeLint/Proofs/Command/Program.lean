/-
What a caller gets of a program that runs beside this one.

Taken whole, it is what was written on the output, if the program could be launched and its status is as it should be. Line by
line it is what was written on both channels, in order, cut behind each line feed (`Cut`). A caller who stops early gets the
first lines of that, and neither a line that comes later nor the status matters.

Results:
- `output_eq_ok_iff`, `output_eq_error_iff`: when there is an output, and what is said when there is none;
- `streams_stream`: the lines of a program that was launched, and how they end;
- `stream_of_le`, `stream_of_lt`: what stopping early changes;
- `output_eq_of_on`, `stream_eq_of_merged`: what a caller does not see of the way in which a program writes;
- `lines_commands_iff`: the status of a linter does not count.
-/
import ChangeLint.Command.Program
import ChangeLint.Proofs.Except
import Mathlib.Data.List.TakeWhile
import Mathlib.Tactic

namespace ChangeLint.Program

variable {check : Bool} {n : Nat} {argv : List String} {l : Launch} {p q : Ended} {s : String} {f : Failure}
  {line bs : List UInt8}

/-! ## Lines -/

/-- bytes cut behind each line feed -/
structure Cut (bytes : List UInt8) (lines : List (List UInt8)) : Prop where
  whole : lines.flatten = bytes
  nonempty : ∀ l ∈ lines, l ≠ []
  /-- a line feed stands at the end of a line only -/
  once : ∀ l ∈ lines, 10 ∉ l.dropLast
  /-- and only the last line may lack it -/
  ended : ∀ l ∈ lines.dropLast, l.getLast? = some 10

/-- one more line in front -/
theorem Cut.cons {lines : List (List UInt8)} (h : Cut bs lines) (hline : 10 ∉ line) :
    Cut (line ++ 10 :: bs) ((line ++ [10]) :: lines) where
  whole := by simp [h.whole]
  nonempty := List.forall_mem_cons.2 ⟨by simp, h.nonempty⟩
  once := List.forall_mem_cons.2 ⟨by simpa using hline, h.once⟩
  ended := by
    cases lines with
    | nil => exact nofun
    | cons first rest =>
      rw [List.dropLast_cons_cons]
      exact List.forall_mem_cons.2 ⟨by simp, h.ended⟩

theorem cut_cutLines (hline : 10 ∉ line) : Cut (line.reverse ++ bs) (cutLines line bs) := by
  induction bs generalizing line with
  | nil =>
    rw [cutLines, List.append_nil]
    split
    · rename_i hempty
      rw [List.isEmpty_iff.1 hempty]
      exact ⟨rfl, nofun, nofun, nofun⟩
    · rename_i hne
      refine ⟨by simp, ?_, ?_, nofun⟩
      · simpa [List.isEmpty_iff] using hne
      · rw [List.forall_mem_singleton]
        exact fun hmem => hline (List.mem_reverse.1 (List.mem_of_mem_dropLast hmem))
  | cons b bs ih =>
    rw [cutLines]
    split
    · rename_i hb
      subst hb
      have hrest := @ih [] List.not_mem_nil
      rw [List.reverse_cons]
      exact hrest.cons (by simpa using hline)
    · rename_i hb
      have hrest := @ih (b :: line) (by simp [hline, Ne.symm hb])
      rwa [List.reverse_cons, List.append_assoc] at hrest

/-- a line that is handed over has no end any more -/
theorem getLast?_chomp (s : String) : ∀ c ∈ (chomp s).toList.getLast?, c ≠ '\r' ∧ c ≠ '\n' := by
  intro c hc
  rw [chomp, String.toList_ofList, List.getLast?_reverse] at hc
  have hkept := List.head?_dropWhile_not (fun c => decide (c = '\r') || decide (c = '\n')) s.toList.reverse
  rw [hc] at hkept
  simpa using hkept

/-! ## The whole output -/

theorem output_launched (check : Bool) (argv : List String) (p : Ended) : output check argv (.ok p) =
    if check = true ∧ p.status ≠ 0 then .error (badStatus argv p (text (p.on .complaints))) else .ok (text (p.on .output)) := by
  by_cases hbad : check = true ∧ p.status ≠ 0
  · simp [output, launched, hbad.1, hbad.2, throw, throwThe, MonadExceptOf.throw]
  · have hgood : (check && p.status != 0) = false := by simpa using hbad
    rw [if_neg hbad, output, launched, ok_bind, hgood]
    rfl

/-- **There is an output** if the program was launched and, where that is asked for, its status is zero -/
theorem output_eq_ok_iff : output check argv l = .ok s ↔
    ∃ p, l = .ok p ∧ (check = true → p.status = 0) ∧ s = text (p.on .output) := by
  cases l with
  | error e =>
    refine iff_of_false (fun h => ?_) fun ⟨_, h, _⟩ => nomatch h
    cases e <;> cases h
  | ok p =>
    rw [output_launched]
    split
    · rename_i hbad
      refine iff_of_false nofun ?_
      rintro ⟨q, hq, hstatus, -⟩
      cases hq
      exact hbad.2 (hstatus hbad.1)
    · rename_i hgood
      constructor
      · intro h
        exact ⟨p, rfl, fun hcheck => not_not.1 fun hne => hgood ⟨hcheck, hne⟩, (Except.ok.inj h).symm⟩
      · rintro ⟨q, hq, -, rfl⟩
        cases hq
        rfl

/-- what is said when there is none: a launch that was refused, or the status with what was complained about -/
theorem output_eq_error_iff : output check argv l = .error f ↔
    (l = .error .nul ∧ f = .nulInPath) ∨
    (∃ e, l = .error e ∧ e ≠ .nul ∧ f = .fault (.commandFailed argv ("cannot launch: " ++ e.message) none "")) ∨
    ∃ p, l = .ok p ∧ check = true ∧ p.status ≠ 0 ∧
      f = .fault (.commandFailed argv "non-zero exit" (some p.status) (text (p.on .complaints))) := by
  cases l with
  | error e =>
    have hrefused : output check argv (.error e) = (launched argv (.error e)).map fun _ => "" := by cases e <;> rfl
    rw [hrefused]
    cases e <;> simp [launched, Except.map, @eq_comm _ _ f]
  | ok p =>
    rw [output_launched]
    split
    · rename_i hbad
      simp [badStatus, hbad.1, hbad.2, @eq_comm _ _ f]
    · rename_i hgood
      refine iff_of_false nofun ?_
      rintro (⟨h, -⟩ | ⟨e, h, -⟩ | ⟨q, hq, hcheck, hstatus, -⟩)
      · cases h
      · cases h
      · cases hq
        exact hgood ⟨hcheck, hstatus⟩

/-- how a program alternates between its channels does not show in its output -/
theorem output_eq_of_on (h : ∀ c, p.on c = q.on c) (hstatus : p.status = q.status) :
    output check argv (.ok p) = output check argv (.ok q) := by
  simp only [output_launched, badStatus, h, hstatus]

/-! ## Line by line -/

theorem stream_none (p : Ended) : stream check none argv (.ok p) =
    ⟨(p.lines.takeWhile isShort).map fun l => chomp (text l), ending check argv p⟩ := rfl

/-- the lines of a program that was launched, and how they end -/
structure Streams (check : Bool) (argv : List String) (p : Ended) (s : Streamed) : Prop where
  /-- the lines are those on both channels, up to the first that is too long -/
  lines : ∃ lines, Cut p.merged lines ∧ s.lines = (lines.takeWhile isShort).map (fun l => chomp (text l)) ∧
    (s.ending = .error overlong ↔ ∃ l ∈ lines, isShort l = false)
  /-- they are handed over without their ends -/
  chomped : ∀ line ∈ s.lines, ∀ c ∈ line.toList.getLast?, c ≠ '\r' ∧ c ≠ '\n'
  /-- without such a line only the status can be wrong, where it counts -/
  ending : s.ending = .error overlong ∨
    s.ending = if check = true ∧ p.status ≠ 0 then .error (badStatus argv p "") else .ok ()

/-- **A program is streamed** line by line, whichever channel it writes to -/
theorem streams_stream (check : Bool) (argv : List String) (p : Ended) :
    Streams check argv p (stream check none argv (.ok p)) where
  lines := by
    refine ⟨p.lines, cut_cutLines List.not_mem_nil, rfl, ?_⟩
    rw [stream_none, Program.ending]
    by_cases hall : p.lines.all isShort = true
    · have hnone : ¬ ∃ l ∈ p.lines, isShort l = false := by simpa using hall
      simp only [hall, Bool.not_true, Bool.false_eq_true, if_false, hnone, iff_false]
      split <;> simp [badStatus, overlong]
    · have hlong : ∃ l ∈ p.lines, isShort l = false := by simpa using hall
      simp only [hall, Bool.not_false, if_true, hlong]
  chomped := by
    intro line hline
    obtain ⟨l, -, rfl⟩ := List.mem_map.1 hline
    exact getLast?_chomp _
  ending := by
    rw [stream_none, Program.ending]
    by_cases hall : p.lines.all isShort = true
    · right
      simp [hall]
    · left
      simp [hall]

/-- who stops behind a line that there is gets the lines up to it, and the end is a good one -/
theorem stream_of_le (h : n ≤ (stream check none argv (.ok p)).lines.length) :
    stream check (some n) argv (.ok p) = ⟨(stream check none argv (.ok p)).lines.take n, .ok ()⟩ :=
  if_neg (Nat.not_lt.2 h)

/-- else stopping changes nothing -/
theorem stream_of_lt (h : (stream check none argv l).lines.length < n) :
    stream check (some n) argv l = stream check none argv l := by
  cases l with
  | error e => cases e <;> rfl
  | ok p => exact if_pos h

/-- neither the channels nor the portions in which a program writes show in its lines -/
theorem stream_eq_of_merged {most : Option Nat} (h : p.merged = q.merged) (hstatus : p.status = q.status) :
    stream check most argv (.ok p) = stream check most argv (.ok q) := by
  have hlines : p.lines = q.lines := congrArg (cutLines []) h
  simp only [stream, launched, ending, badStatus, hlines, hstatus]

/-! ## Commands -/

variable {system : System} {directory : String} {lines : List String}

/-- **The status of a linter does not count**: its lines can be had if it was launched and none of them is too long -/
theorem lines_commands_iff : (commands system directory).lines argv = .ok lines ↔
    ∃ p, system directory argv = .ok p ∧ p.lines.all isShort = true ∧ lines = p.lines.map fun l => chomp (text l) := by
  rw [commands]
  dsimp only
  cases system directory argv with
  | error e => cases e <;> simp [stream, launched, Except.map]
  | ok p =>
    rw [stream_none, ending]
    by_cases hall : p.lines.all isShort = true
    · have htaken : p.lines.takeWhile isShort = p.lines := List.takeWhile_eq_self_iff.2 (List.all_eq_true.1 hall)
      rw [htaken, hall]
      constructor
      · intro h
        exact ⟨p, rfl, hall, (Except.ok.inj h).symm⟩
      · rintro ⟨q, hq, -, rfl⟩
        cases hq
        rfl
    · refine iff_of_false (fun h => ?_) ?_
      · simp [hall, Except.map] at h
      · rintro ⟨q, hq, hshort, -⟩
        cases hq
        exact hall hshort

end ChangeLint.Program
