/-
Runs by the clock.

At each time at which a checker is due or the run is cancelled, in order (`Loop.byClock`), checkers become due, the run is
cancelled if it is the time for that, and then the loop makes its calls. Nobody stops the loop, and checkers that are asked to
stop end as cancelled as soon as they are resumed. Up to the time at which the run is over, the loop is quiet between two times:
who was due has ended, and the others wait (`Loop.quiet`). From then on everybody has ended, and the end of the run is told
(`Loop.gone`).

Results:
- `comes_parted`, `comes_settled`, `comes_cancelled`: what the calls at one time come to;
- `run_movesAt_of_isRousing`, `run_movesAt_of_not_isRousing`, `run_movesAt_cancel`: what one time of the clock comes to;
- `run_byClock_of_le`, `run_byClock_of_lt`: what all times come to, for a run that is cancelled and for one that is not.
-/
import ChangeLint.Proofs.Run.Loop

namespace ChangeLint.Run

variable {es : List Entrant} {l l' l'' : Loop} {t : Task} {i : Nat}

/-! ## Calls one after the other -/

/-- a checker goes on, and ends as cancelled if it was asked to stop -/
def Task.finish (t : Task) : Task := t.resume (some .cancelled)

/-- checkers go on, one after the other -/
def resumeAll (is : List Nat) (ts : List Task) : List Task := is.foldl (fun ts i => ts.modify i Task.finish) ts

theorem finish_finish (t : Task) : t.finish.finish = t.finish := by
  unfold Task.finish Task.resume
  cases h : t.stage <;> simp [h]

theorem entrant_resume (answer : Option Status) (t : Task) : (t.resume answer).entrant = t.entrant := by
  unfold Task.resume
  split <;> rfl

theorem getElem?_resumeAll (is : List Nat) (ts : List Task) (i : Nat) :
    (resumeAll is ts)[i]? = ts[i]?.map fun t => if i ∈ is then t.finish else t := by
  induction is generalizing ts with
  | nil => simp [resumeAll]
  | cons j is ih =>
    have hrec := ih (ts.modify j Task.finish)
    rw [List.getElem?_modify, Option.map_eq_map, Option.map_map] at hrec
    refine hrec.trans (Option.map_congr fun t _ => ?_)
    by_cases hj : j = i
    · by_cases hi : i ∈ is
      · simp [hj, hi, finish_finish]
      · simp [hj, hi]
    · simp [hj, Ne.symm hj]

/-- checkers of a list that go on, by what they were -/
theorem resumeAll_places {α : Type} (as : List α) (before after : α → Task) (p : Task → Bool) :
    resumeAll (places p (as.map before)) (as.map after) =
      as.map fun a => if p (before a) then (after a).finish else after a := by
  refine List.ext_getElem? fun i => ?_
  rw [getElem?_resumeAll, List.getElem?_map, List.getElem?_map, Option.map_map]
  refine Option.map_congr fun a ha => ?_
  have hmem : i ∈ places p (as.map before) ↔ p (before a) = true := by
    simp [mem_places, ha]
  simp only [Function.comp_apply, hmem]

namespace Loop

theorem run_append (l : Loop) (ms ns : List Move) : l.run (ms ++ ns) = (l.run ms).run ns := List.foldl_append

/-- the loop makes its next call, and nobody who was asked to stop takes time to clear up -/
def next (l : Loop) : Loop := l.turn (some .cancelled)

theorem run_turns (l : Loop) (k : Nat) : l.run (List.replicate k (.turn (some .cancelled))) = next^[k] l := by
  induction k generalizing l with
  | zero => rfl
  | succ k ih => exact ih l.next

/-- a loop that has come to another after at most so many calls -/
def Comes (l l' : Loop) (k : Nat) : Prop := ∃ j ≤ k, next^[j] l = l'

theorem Comes.trans {j k : Nat} (h : Comes l l' j) (h' : Comes l' l'' k) : Comes l l'' (j + k) := by
  obtain ⟨m, hm, rfl⟩ := h
  obtain ⟨n, hn, rfl⟩ := h'
  refine ⟨n + m, ?_, Function.iterate_add_apply next n m l⟩
  omega

theorem comes_next (l : Loop) : Comes l l.next 1 := ⟨1, le_rfl, rfl⟩

/-- once no call is left, more calls change nothing -/
theorem Comes.turns {k : Nat} (h : Comes l l' k) (hidle : l'.calls = []) : next^[k] l = l' := by
  obtain ⟨j, hj, rfl⟩ := h
  have hfixed : (next^[j] l).next = next^[j] l := by
    generalize next^[j] l = m at hidle ⊢
    cases hphase : m.phase <;> simp [next, turn, hidle, hphase]
  obtain ⟨n, rfl⟩ := Nat.exists_eq_add_of_le hj
  rw [Nat.add_comm, Function.iterate_add_apply]
  exact Function.iterate_fixed hfixed n

/-- the coordinator is to go on if it has what it waits for -/
def rouseIf (l : Loop) : Loop := if l.isRoused then l.rouse else l

/-- what the coordinator has, it keeps when a checker goes on -/
theorem isRoused_modify (h : l.isRoused = true) (i : Nat) :
    ({ l with tasks := l.tasks.modify i Task.finish } : Loop).isRoused = true := by
  have hkeeps : ∀ t ∈ l.tasks, t.isEnded = true → t ∈ l.tasks.modify i Task.finish := by
    intro t ht hended
    obtain ⟨j, hj⟩ := List.mem_iff_getElem?.1 ht
    refine List.mem_of_getElem? (i := j) ?_
    rw [List.getElem?_modify, hj, Option.map_eq_map, Option.map_some, Task.finish, resume_of_isEnded hended, ite_self]
  have hall : l.allEnded = true → ({ l with tasks := l.tasks.modify i Task.finish } : Loop).allEnded = true := by
    intro hended
    refine allEnded_iff.2 (forall_mem_modify (allEnded_iff.1 hended) (fun t ht => ?_) i)
    rwa [Task.finish, resume_of_isEnded ht]
  unfold isRoused at h ⊢
  dsimp only
  cases hphase : l.phase with
  | finished r => simp [hphase] at h
  | halted f => simp [hphase] at h
  | clearing f =>
    rw [hphase] at h
    exact hall h
  | watching =>
    rw [hphase] at h
    simp only [Bool.or_eq_true, failure?, List.findSome?_isSome_iff] at h ⊢
    rcases h with ⟨t, ht, hfailed⟩ | h
    · refine .inl ⟨t, hkeeps t ht ?_, hfailed⟩
      unfold Task.failure? at hfailed
      split_ifs at hfailed with hstage
      · exact isEnded_iff.2 ⟨_, hstage⟩
      · cases hfailed
    · exact .inr (hall h)

theorem isRoused_resumeAll (h : l.isRoused = true) (is : List Nat) :
    ({ l with tasks := resumeAll is l.tasks } : Loop).isRoused = true := by
  induction is generalizing l with
  | nil => exact h
  | cons i is ih => exact ih (isRoused_modify h i)

theorem rouse_of_mem (h : .look ∈ l.calls) : l.rouse = l := if_pos h

theorem rouse_of_not_mem (h : .look ∉ l.calls) : l.rouse = { l with calls := l.calls ++ [.look] } := if_neg h

theorem rouseIf_of_mem (h : .look ∈ l.calls) : rouseIf l = l := by
  rw [rouseIf, rouse_of_mem h, ite_self]

theorem rouseIf_of_isRoused (h : l.isRoused = true) : rouseIf l = l.rouse := if_pos h

theorem rouseIf_of_not_isRoused (h : ¬ l.isRoused = true) : rouseIf l = l := if_neg h

/-- nobody stops the loop, and nobody has -/
structure Calm (l : Loop) : Prop where
  stays : ∀ t ∈ l.tasks, t.entrant.Stays
  goes : ∀ f, l.phase ≠ .halted f

theorem calm_modify (h : l.Calm) (i : Nat) (calls : List Call) :
    ({ l with tasks := l.tasks.modify i Task.finish, calls := calls } : Loop).Calm := by
  refine ⟨forall_mem_modify h.stays (fun t ht => ?_) i, h.goes⟩
  rwa [Task.finish, entrant_resume]

theorem calm_rouse (h : l.Calm) : l.rouse.Calm := by
  refine ⟨?_, ?_⟩
  · rw [rouse_tasks]
    exact h.stays
  · rw [rouse_phase]
    exact h.goes

/-- a call that resumes a checker, when nobody stops the loop -/
theorem next_of_resume {calls : List Call} (h : l.Calm) (hcalls : l.calls = .resume i :: calls) :
    l.next = rouseIf { l with tasks := l.tasks.modify i Task.finish, calls := calls } := by
  have hturn : l.next = ({ l with calls := calls } : Loop).resume (some .cancelled) i := by
    cases hphase : l.phase with
    | halted f => exact absurd hphase (h.goes f)
    | watching => simp [next, turn, hcalls, hphase]
    | clearing f => simp [next, turn, hcalls, hphase]
    | finished r => simp [next, turn, hcalls, hphase]
  have hhalt : l.tasks[i]?.bind Task.halt? = none := by
    rw [Option.bind_eq_none_iff]
    intro t ht
    rw [Task.halt?, halt?_of_stays (h.stays t (List.mem_of_getElem? ht)), ite_self]
  rw [hturn]
  simp only [resume, hhalt]
  rfl

/-- **Calls that resume checkers**: the coordinator goes on behind them, if by then it has what it waits for -/
theorem nexts_resumes {is : List Nat} {tail : List Call} (hcalm : l.Calm) (hcalls : l.calls = is.map .resume ++ tail)
    (hroused : l.isRoused = true → .look ∈ tail) :
    next^[is.length] l = rouseIf { l with tasks := resumeAll is l.tasks, calls := tail } := by
  induction is generalizing l tail with
  | nil =>
    obtain rfl : l.calls = tail := by simpa using hcalls
    change l = rouseIf l
    by_cases h : l.isRoused = true
    · rw [rouseIf_of_mem (hroused h)]
    · rw [rouseIf_of_not_isRoused h]
  | cons i is ih =>
    let l' : Loop := { l with tasks := l.tasks.modify i Task.finish, calls := is.map .resume ++ tail }
    have hcalm' : l'.Calm := calm_modify hcalm i _
    have hnext : l.next = rouseIf l' := next_of_resume hcalm hcalls
    rw [List.length_cons, Function.iterate_succ_apply, hnext]
    by_cases h : l'.isRoused = true
    · have hfinal : ({ l' with tasks := resumeAll is l'.tasks, calls := tail } : Loop).isRoused = true :=
        isRoused_resumeAll h is
      rw [rouseIf_of_isRoused h]
      by_cases hlook : .look ∈ tail
      · rw [rouse_of_mem (by simp [l', hlook])]
        exact ih hcalm' rfl fun _ => hlook
      · -- this call rouses the coordinator, and the calls behind it find it roused
        have hrouse : l'.rouse = { l' with calls := l'.calls ++ [.look] } := rouse_of_not_mem (by simp [l', hlook])
        have hrest := @ih { l' with calls := l'.calls ++ [.look] } (tail ++ [.look]) (hrouse ▸ calm_rouse hcalm')
          (by simp [l']) (by simp)
        rw [hrouse, hrest, rouseIf_of_mem (by simp)]
        exact ((rouseIf_of_isRoused hfinal).trans (rouse_of_not_mem hlook)).symm
    · rw [rouseIf_of_not_isRoused h]
      exact ih hcalm' rfl fun hr => absurd hr h

end Loop

/-! ## One time of the clock -/

/-- entrants of which some have ended on their own, and the rest wait -/
def watched (es : List Entrant) (p : Entrant → Bool) : List Task :=
  es.map fun e => ⟨e, if p e then .ended e.own else .waiting⟩

/-- entrants that have ended by a time or are cancelled then -/
def parted (es : List Entrant) (now : Rat) : List Task := es.map fun e => ⟨e, .ended (e.statusAt now)⟩

namespace Loop

/-- a run that waits for its checkers, with no call to make -/
def quiet (es : List Entrant) (p : Entrant → Bool) : Loop := ⟨watched es p, [], .watching, false, false⟩

/-- a run that is over at a time, with no call to make -/
def gone (es : List Entrant) (now : Rat) (isCancelled : Bool) (r : Except Failure (List (Option (List Finding)))) : Loop :=
  ⟨parted es now, [], .finished r, isCancelled, true⟩

variable {now : Rat} {p : Entrant → Bool} {c : Option Rat} {isCancelled : Bool}
  {r : Except Failure (List (Option (List Finding)))} {q : Task → Bool}

theorem start_eq_quiet (h : es ≠ []) : start es = quiet es fun _ => false := by
  simp [start, quiet, watched, h]

/-- by a time, those that are due have ended -/
theorem resumeAll_due (h : ∀ e ∈ es, p e = true → e.due ≤ now) :
    resumeAll (places (Task.isReached now) (watched es p)) ((watched es p).map (Task.elapse now)) =
      watched es fun e => e.due ≤ now := by
  unfold watched
  rw [List.map_map, resumeAll_places]
  refine List.map_congr_left fun e he => ?_
  by_cases hp : p e = true
  · simp [Task.isReached, Task.elapse, hp, h e he hp]
  · by_cases hdue : e.due ≤ now
    · simp [Task.isReached, Task.elapse, Task.finish, Task.resume, hp, hdue]
    · simp [Task.isReached, Task.elapse, hp, hdue]

/-- those that were asked to stop at a time have ended as cancelled -/
theorem resumeAll_stop (es : List Entrant) (now : Rat) :
    resumeAll (places Task.isIdle (watched es fun e => e.due ≤ now)) ((watched es fun e => e.due ≤ now).map Task.stop) =
      parted es now := by
  unfold watched parted
  rw [List.map_map, resumeAll_places]
  refine List.map_congr_left fun e _ => ?_
  by_cases hdue : e.due ≤ now
  · simp [Task.isIdle, Task.isEnded, Task.stop, statusAt_eq, hdue]
  · simp [Task.isIdle, Task.isEnded, Task.stop, Task.finish, Task.resume, statusAt_eq, hdue]

theorem watched_eq_parted (h : ∀ e ∈ es, e.due ≤ now) : (watched es fun e => e.due ≤ now) = parted es now := by
  refine List.map_congr_left fun e he => ?_
  simp [statusAt_eq, h e he]

theorem allEnded_watched (es : List Entrant) (now : Rat) (calls : List Call) (phase : Phase) (isCancelled isTold : Bool) :
    (Loop.mk (watched es fun e => e.due ≤ now) calls phase isCancelled isTold).allEnded = es.all fun e => e.due ≤ now := by
  rw [allEnded, watched, List.all_map]
  refine List.all_congr rfl fun e => ?_
  by_cases hdue : e.due ≤ now <;> simp [Task.isEnded, hdue]

theorem allEnded_parted (es : List Entrant) (now : Rat) (calls : List Call) (phase : Phase) (isCancelled isTold : Bool) :
    (Loop.mk (parted es now) calls phase isCancelled isTold).allEnded = true := by
  simp [allEnded, parted, Task.isEnded]

/-- the coordinator sees the first entrant in the order of the registry that has failed by a time -/
theorem failure?_watched {calls : List Call} {phase : Phase} {isTold : Bool} :
    (Loop.mk (watched es fun e => e.due ≤ now) calls phase isCancelled isTold).failure? =
      (es.find? fun e => e.due ≤ now && e.failure?.isSome).bind Entrant.failure? := by
  unfold failure? watched
  induction es with
  | nil => rfl
  | cons e es ih =>
    rw [List.map_cons, List.findSome?_cons, List.find?_cons]
    have htask : Task.failure? ⟨e, if decide (e.due ≤ now) = true then .ended e.own else .waiting⟩ =
        if e.due ≤ now then e.failure? else none := by
      by_cases hdue : e.due ≤ now
      · simp only [Task.failure?, hdue, decide_true, if_true, Stage.ended.injEq, ite_eq_left_iff]
        intro hown
        unfold Entrant.own at hown
        unfold Entrant.failure?
        cases hending : e.ending with
        | ok r => rfl
        | error f => simp [hending] at hown
      · simp [Task.failure?, hdue]
    rw [htask]
    by_cases hdue : e.due ≤ now
    · cases hfailure : e.failure? with
      | some f => simp [hdue, hfailure]
      | none => simpa [hdue, hfailure] using ih
    · simpa [hdue] using ih

/-- the coordinator has what it waits for when there is something to look at -/
theorem isRoused_watched (hstays : ∀ e ∈ es, e.Stays) {calls : List Call} {isTold : Bool} :
    (Loop.mk (watched es fun e => e.due ≤ now) calls .watching isCancelled isTold).isRoused = isRousing es now := by
  have hfailed : ((es.find? fun e => e.due ≤ now && e.failure?.isSome).bind Entrant.failure?).isSome =
      es.any fun e => e.due ≤ now && (e.failure?.isSome || e.halt?.isSome) := by
    have hhalt : (es.any fun e => e.due ≤ now && (e.failure?.isSome || e.halt?.isSome)) =
        es.any fun e => e.due ≤ now && e.failure?.isSome := by
      rw [Bool.eq_iff_iff, List.any_eq_true, List.any_eq_true]
      refine exists_congr fun e => and_congr_right fun he => ?_
      rw [halt?_of_stays (hstays e he), Option.isSome_none, Bool.or_false]
    rw [hhalt, ← List.isSome_find?]
    cases hfind : es.find? fun e => e.due ≤ now && e.failure?.isSome with
    | none => rfl
    | some e =>
      have hfound := List.find?_some hfind
      rw [Bool.and_eq_true] at hfound
      exact hfound.2
  change ((failure? _).isSome || allEnded _) = _
  rw [failure?_watched, allEnded_watched, hfailed]
  rfl

theorem isEnded_elapse (now : Rat) (t : Task) : (t.elapse now).isEnded = t.isEnded := by
  unfold Task.elapse
  split_ifs with h
  · have hwaiting : t.stage = .waiting := by simpa using (Bool.and_eq_true_iff.1 h).1
    simp [Task.isEnded, hwaiting]
  · rfl

theorem failure?_elapse (now : Rat) (t : Task) : (t.elapse now).failure? = t.failure? := by
  unfold Task.elapse
  split_ifs with h
  · have hwaiting : t.stage = .waiting := by simpa using (Bool.and_eq_true_iff.1 h).1
    simp [Task.failure?, hwaiting]
  · rfl

/-- time alone gives the coordinator nothing -/
theorem isRoused_elapse (l : Loop) (now : Rat) : (l.elapse now).isRoused = l.isRoused := by
  have hfailure : (l.elapse now).failure? = l.failure? := by
    simp [failure?, elapse, List.findSome?_map, Function.comp_def, failure?_elapse]
  have hended : (l.elapse now).allEnded = l.allEnded := by
    simp [allEnded, elapse, Function.comp_def, isEnded_elapse]
  unfold isRoused
  rw [hfailure, hended]
  rfl

/-- checkers go on, as many as there are entrants at most -/
theorem comes_resumes {f : Entrant → Task} {tail : List Call} (hcalm : l.Calm)
    (hcalls : l.calls = resumes q (es.map f) ++ tail) (hroused : l.isRoused = true → .look ∈ tail) :
    Comes l (rouseIf { l with tasks := resumeAll (places q (es.map f)) l.tasks, calls := tail }) es.length := by
  refine ⟨_, ?_, nexts_resumes hcalm hcalls hroused⟩
  exact (length_places_le q _).trans_eq (List.length_map f)

/-- checkers none of which stops the loop, as far as they may have come -/
theorem calm_map {f : Entrant → Task} (hstays : ∀ e ∈ es, e.Stays) (hf : ∀ e, (f e).entrant = e) {calls : List Call}
    {phase : Phase} {isTold : Bool} (hphase : ∀ g, phase ≠ .halted g) :
    (Loop.mk (es.map f) calls phase isCancelled isTold).Calm := by
  refine ⟨fun t ht => ?_, hphase⟩
  obtain ⟨e, he, rfl⟩ := List.mem_map.1 ht
  rw [hf]
  exact hstays e he

/-- the end of a run is told -/
theorem comes_gone (es : List Entrant) (now : Rat) (isCancelled : Bool)
    (r : Except Failure (List (Option (List Finding)))) :
    Comes ⟨parted es now, [.tell], .finished r, isCancelled, false⟩ (gone es now isCancelled r) 1 := comes_next _

theorem Comes.mono {j k : Nat} (h : Comes l l' j) (hjk : j ≤ k) : Comes l l' k := by
  obtain ⟨m, hm, hl⟩ := h
  exact ⟨m, hm.trans hjk, hl⟩

/-- a run that all have ended before -/
theorem comes_gone_of_all (h : ∀ e ∈ es, e.due ≤ now) (r : Except Failure (List (Option (List Finding)))) :
    Comes ⟨watched es fun e => e.due ≤ now, [.tell], .finished r, false, false⟩ (gone es now false r) (es.length + 2) := by
  rw [watched_eq_parted h]
  exact (comes_gone es now false r).mono (by omega)

/-! ## The clock -/

/-- what happens at a time, when the run is cancelled at `c`: some of `n` checkers become due, the run is cancelled if it is the
time for that, and the loop makes its calls until none is left -/
def movesAt (c : Option Rat) (n : Nat) (now : Rat) : List Move :=
  .elapse now :: ((if c = some now then [.cancel] else []) ++ List.replicate (2 * n + 3) (.turn (some .cancelled)))

/-- the times at which something happens, in order -/
def moments (c : Option Rat) (es : List Entrant) : List Rat := orderedSet (fun a b => a < b) (es.map Entrant.due ++ c.toList)

/-- a run by the clock, cancelled at `c` -/
def byClock (c : Option Rat) (es : List Entrant) : List Move := (moments c es).flatMap (movesAt c es.length)

theorem run_movesAt (l : Loop) (n : Nat) (now : Rat) :
    l.run (movesAt c n now) = next^[2 * n + 3] (if c = some now then (l.elapse now).cancel else l.elapse now) := by
  rw [movesAt, ← run_turns]
  split_ifs
  · rfl
  · rfl

/-- **Times after the end of a run** -/
theorem run_movesAt_gone (es : List Entrant) (t : Rat) (isCancelled : Bool)
    (r : Except Failure (List (Option (List Finding)))) (n : Nat) (now : Rat) :
    (gone es t isCancelled r).run (movesAt c n now) = gone es t isCancelled r := by
  have helapse : (gone es t isCancelled r).elapse now = gone es t isCancelled r := by
    refine elapse_eq_self (fun u hu => isStopped_of_isEnded ?_) now
    obtain ⟨e, -, rfl⟩ := List.mem_map.1 hu
    rfl
  rw [run_movesAt, helapse, show (gone es t isCancelled r).cancel = gone es t isCancelled r from rfl, ite_self]
  exact Comes.turns ⟨0, Nat.zero_le _, rfl⟩ rfl

theorem run_gone (es : List Entrant) (t : Rat) (isCancelled : Bool)
    (r : Except Failure (List (Option (List Finding)))) (n : Nat) (ts : List Rat) :
    (gone es t isCancelled r).run (ts.flatMap (movesAt c n)) = gone es t isCancelled r := by
  induction ts with
  | nil => rfl
  | cons u ts ih => rw [List.flatMap_cons, run_append, run_movesAt_gone, ih]

theorem mem_moments {t : Rat} : t ∈ moments c es ↔ (∃ e ∈ es, e.due = t) ∨ c = some t := by
  rw [moments, mem_orderedSet, List.mem_append, List.mem_map, Option.mem_toList]

theorem not_isRoused_start (h : es ≠ []) : ¬ (quiet es fun _ => false).isRoused = true := by
  obtain ⟨e, es, rfl⟩ := List.exists_cons_of_ne_nil h
  simp [isRoused, quiet, watched, failure?, allEnded, Task.failure?, Task.isEnded]

section Staying

-- from here on nobody stops the loop
variable (hstays : ∀ e ∈ es, e.Stays)

include hstays

/-- those that were asked to stop at a time go on -/
theorem comes_parted (now : Rat) (tail : List Call) {phase : Phase} (hphase : ∀ g, phase ≠ .halted g)
    (isCancelled isTold : Bool)
    (h : (Loop.mk ((watched es fun e => e.due ≤ now).map Task.stop) tail phase isCancelled isTold).isRoused = true →
      .look ∈ tail) :
    Comes
      ⟨(watched es fun e => e.due ≤ now).map Task.stop, resumes Task.isIdle (watched es fun e => e.due ≤ now) ++ tail, phase,
        isCancelled, isTold⟩
      (rouseIf ⟨parted es now, tail, phase, isCancelled, isTold⟩) es.length := by
  have hcalm : (Loop.mk ((watched es fun e => e.due ≤ now).map Task.stop)
      (resumes Task.isIdle (watched es fun e => e.due ≤ now) ++ tail) phase isCancelled isTold).Calm := by
    rw [watched, List.map_map]
    refine calm_map hstays (fun e => ?_) hphase
    simp only [Function.comp_apply, Task.stop]
    split_ifs <;> rfl
  rw [← resumeAll_stop]
  exact comes_resumes hcalm rfl h


/-- **A cancelled run**: those that are due end on their own, the coordinator asks the rest to stop, and they end before the
end of the run is told -/
theorem comes_cancelled (now : Rat) :
    Comes ⟨watched es fun e => e.due ≤ now, [.look], .watching, true, false⟩ (gone es now true (.error .cancelled))
      (es.length + 2) := by
  have hlook := comes_next ⟨watched es fun e => e.due ≤ now, [.look], .watching, true, false⟩
  have hparted := comes_parted hstays now [.tell] (nofun : ∀ g, Phase.finished (.error .cancelled) ≠ .halted g) true false
    (by simp [isRoused])
  rw [rouseIf_of_not_isRoused (by simp [isRoused])] at hparted
  have hall := (hlook.trans hparted).trans (comes_gone es now true (.error .cancelled))
  rwa [Nat.add_comm 1, Nat.add_assoc] at hall

/-- a run that fails while checkers are left: these end, the coordinator fails, and this is told -/
theorem comes_cleared (now : Rat) (f : Failure) (h : ¬ (es.all fun e => e.due ≤ now) = true) :
    Comes
      ⟨(watched es fun e => e.due ≤ now).map Task.stop, resumes Task.isIdle (watched es fun e => e.due ≤ now),
        .clearing f, false, false⟩
      (gone es now false (.error f)) (es.length + 2) := by
  have hleft : ¬ (Loop.mk ((watched es fun e => e.due ≤ now).map Task.stop) [] (.clearing f) false false).isRoused = true := by
    have hended := allEnded_watched es now [] .watching false false
    simp only [isRoused, allEnded, List.all_map, Function.comp_def, isEnded_stop] at hended ⊢
    rwa [hended]
  have hphase : ∀ g, Phase.clearing f ≠ .halted g := fun g hno => by cases hno
  have hparted := comes_parted hstays now [] hphase false false fun hr => absurd hr hleft
  have hroused : (Loop.mk (parted es now) [] (.clearing f) false false).isRoused = true :=
    allEnded_parted es now [] (.clearing f) false false
  rw [List.append_nil, rouseIf_of_isRoused hroused, rouse_of_not_mem (by simp)] at hparted
  have hlook := comes_next ⟨parted es now, [.look], .clearing f, false, false⟩
  have hfinish : (Loop.mk (parted es now) [.look] (.clearing f) false false).next =
      ⟨parted es now, [.tell], .finished (.error f), false, false⟩ := by
    simp [next, turn, look, allEnded_parted, finish]
  rw [hfinish] at hlook
  exact (hparted.trans hlook).trans (comes_gone es now false (.error f))

/-- **A run that is roused**: without a failure all have ended, and it returns what they found; at a failure, those that are
left are asked to stop and end before the run does -/
theorem comes_settled (h : isRousing es now = true) :
    Comes ⟨watched es fun e => e.due ≤ now, [.look], .watching, false, false⟩ (gone es now false (settle es now).result)
      (es.length + 3) := by
  have hlook := comes_next ⟨watched es fun e => e.due ≤ now, [.look], .watching, false, false⟩
  have hturn : (Loop.mk (watched es fun e => e.due ≤ now) [.look] .watching false false).next =
      (Loop.mk (watched es fun e => e.due ≤ now) [] .watching false false).look := rfl
  have hentrants : (watched es fun e => e.due ≤ now).map Task.entrant = es := by simp [watched, Function.comp_def]
  rw [Nat.add_comm es.length 3, Nat.add_assoc 1 2, Nat.add_comm 2]
  refine hlook.trans ?_
  rw [hturn]
  cases hfind : es.find? fun e => e.due ≤ now && e.failure?.isSome with
  | none =>
    have hall : ∀ e ∈ es, e.due ≤ now := by
      rcases isRousing_iff.1 h with ⟨e, he, hdue, hfails⟩ | hall
      · have hno := List.find?_eq_none.1 hfind e he
        rw [Bool.and_eq_true, isSome_failure?_iff (hstays e he), decide_eq_true_eq] at hno
        exact absurd ⟨hdue, hfails⟩ hno
      · exact hall
    have hresult : (settle es now).result = collect es := by rw [settle_of_stays hstays, hfind]
    have hended : (es.all fun e => e.due ≤ now) = true := by simpa using hall
    simp only [look, failure?_watched, hfind, Option.bind_none, allEnded_watched, hended, hentrants, hresult]
    exact comes_gone_of_all hall _
  | some e =>
    have hfound := List.find?_some hfind
    rw [Bool.and_eq_true] at hfound
    obtain ⟨f, hf⟩ := Option.isSome_iff_exists.1 hfound.2
    have hresult : (settle es now).result = .error f := by
      rw [settle_of_stays hstays, hfind]
      simp only [hf, Option.getD_some]
    simp only [look, failure?_watched, hfind, Option.bind_some, hf, allEnded_watched, hresult]
    by_cases hended : (es.all fun e => e.due ≤ now) = true
    · simp only [hended]
      exact comes_gone_of_all (by simpa using hended) _
    · simp only [hended]
      exact comes_cleared hstays now f hended

/-- those that have become due go on -/
theorem comes_due (h : ∀ e ∈ es, p e = true → e.due ≤ now) (tail : List Call) (isCancelled : Bool)
    (hroused : (Loop.mk ((watched es p).map (Task.elapse now)) tail .watching isCancelled false).isRoused = true →
      .look ∈ tail) :
    Comes
      ⟨(watched es p).map (Task.elapse now),
        resumes (Task.isReached now) (watched es p) ++ tail, .watching, isCancelled, false⟩
      (rouseIf ⟨watched es fun e => e.due ≤ now, tail, .watching, isCancelled, false⟩) es.length := by
  have hcalm : (Loop.mk ((watched es p).map (Task.elapse now)) (resumes (Task.isReached now) (watched es p) ++ tail)
      .watching isCancelled false).Calm := by
    rw [watched, List.map_map]
    refine calm_map hstays (fun e => ?_) nofun
    simp only [Function.comp_apply, Task.elapse]
    split_ifs <;> rfl
  rw [← resumeAll_due h]
  exact comes_resumes hcalm rfl hroused

theorem comes_elapse (h : ∀ e ∈ es, p e = true → e.due ≤ now) (hquiet : ¬ (quiet es p).isRoused = true) :
    Comes ((quiet es p).elapse now) (rouseIf (quiet es fun e => e.due ≤ now)) es.length := by
  have hdue := comes_due hstays h [] false fun hr => absurd ((isRoused_elapse (quiet es p) now).symm.trans hr) hquiet
  rwa [List.append_nil] at hdue

/-- when the run is cancelled at the same time, the coordinator is to go on behind them -/
theorem comes_elapse_cancel (h : ∀ e ∈ es, p e = true → e.due ≤ now) :
    Comes ((quiet es p).elapse now).cancel ⟨watched es fun e => e.due ≤ now, [.look], .watching, true, false⟩ es.length := by
  have hdue := comes_due hstays h [.look] true fun _ => List.mem_singleton_self _
  rw [rouseIf_of_mem (List.mem_singleton_self _)] at hdue
  have hcancel : ((quiet es p).elapse now).cancel =
      ⟨(watched es p).map (Task.elapse now),
        resumes (Task.isReached now) (watched es p) ++ [.look], .watching, true, false⟩ :=
    rouse_of_not_mem (l := { (quiet es p).elapse now with isCancelled := true }) (by simp [elapse, quiet, resumes])
  rwa [hcancel]

/-- **The time at which the run is cancelled** -/
theorem run_movesAt_cancel (h : ∀ e ∈ es, p e = true → e.due ≤ now) :
    (quiet es p).run (movesAt (some now) es.length now) = gone es now true (.error .cancelled) := by
  rw [run_movesAt, if_pos rfl]
  exact (((comes_elapse_cancel hstays h).trans (comes_cancelled hstays now)).mono (by omega)).turns rfl

/-- **A time at which there is something to look at** -/
theorem run_movesAt_of_isRousing (h : ∀ e ∈ es, p e = true → e.due ≤ now) (hquiet : ¬ (quiet es p).isRoused = true)
    (hc : c ≠ some now) (hrousing : isRousing es now = true) :
    (quiet es p).run (movesAt c es.length now) = gone es now false (settle es now).result := by
  have hroused : (quiet es fun e => e.due ≤ now).isRoused = true := (isRoused_watched hstays).trans hrousing
  have helapse := comes_elapse hstays h hquiet
  rw [rouseIf_of_isRoused hroused, rouse_of_not_mem (by simp [quiet])] at helapse
  rw [run_movesAt, if_neg hc]
  exact ((helapse.trans (comes_settled hstays hrousing)).mono (by omega)).turns rfl

/-- **A time at which there is nothing to look at** -/
theorem run_movesAt_of_not_isRousing (h : ∀ e ∈ es, p e = true → e.due ≤ now) (hquiet : ¬ (quiet es p).isRoused = true)
    (hc : c ≠ some now) (hrousing : ¬ isRousing es now = true) :
    (quiet es p).run (movesAt c es.length now) = quiet es fun e => e.due ≤ now := by
  have hroused : ¬ (quiet es fun e => e.due ≤ now).isRoused = true := by
    rw [quiet, isRoused_watched hstays]
    exact hrousing
  have helapse := comes_elapse hstays h hquiet
  rw [rouseIf_of_not_isRoused hroused] at helapse
  rw [run_movesAt, if_neg hc]
  exact (helapse.mono (by omega)).turns rfl

/-- **The first time at which a run is cancelled or there is something to look at is its end** -/
theorem run_times {ts : List Rat} {t : Rat} (hsorted : ts.Pairwise fun a b => decide (a < b) = true)
    (h : ∀ u ∈ ts, ∀ e ∈ es, p e = true → e.due ≤ u) (hquiet : ¬ (quiet es p).isRoused = true)
    (hfind : ts.find? (fun u => c = some u || isRousing es u) = some t) :
    (quiet es p).run (ts.flatMap (movesAt c es.length)) =
      if c = some t then gone es t true (.error .cancelled) else gone es t false (settle es t).result := by
  induction ts generalizing p with
  | nil => cases hfind
  | cons u ts ih =>
    obtain ⟨hu, hsorted⟩ := List.pairwise_cons.1 hsorted
    have hdue := h u List.mem_cons_self
    rw [List.flatMap_cons, run_append]
    rw [List.find?_cons] at hfind
    by_cases hc : c = some u
    · obtain rfl : u = t := by simpa [hc] using hfind
      rw [if_pos hc, hc, run_movesAt_cancel hstays hdue, run_gone]
    · by_cases hrousing : isRousing es u = true
      · obtain rfl : u = t := by simpa [hc, hrousing] using hfind
        rw [if_neg hc, run_movesAt_of_isRousing hstays hdue hquiet hc hrousing, run_gone]
      · rw [run_movesAt_of_not_isRousing hstays hdue hquiet hc hrousing]
        refine ih hsorted ?_ ?_ (by simpa [hc, hrousing] using hfind)
        · intro v hv e _ he
          exact (of_decide_eq_true he).trans (of_decide_eq_true (hu v hv)).le
        · rw [quiet, isRoused_watched hstays]
          exact hrousing

/-- **A run by the clock** ends at the time at which it looks, or at which it is cancelled -/
theorem run_byClock {t : Rat} (h : es ≠ []) (hmem : t ∈ moments c es) (hnow : c = some t ∨ isRousing es t = true)
    (hbefore : ∀ u, u < t → c ≠ some u ∧ ¬ isRousing es u = true) :
    (start es).run (byClock c es) =
      if c = some t then gone es t true (.error .cancelled) else gone es t false (settle es t).result := by
  rw [start_eq_quiet h]
  refine run_times hstays (pairwise_times _) (by simp) (not_isRoused_start h)
    (find?_eq_some_of_pairwise (pairwise_times _) hmem (by simpa using hnow) fun u _ hu => ?_)
  simpa using hbefore u (of_decide_eq_true hu)

/-- a run that is cancelled no later than it looks -/
theorem run_byClock_of_le {t : Rat} (h : es ≠ []) (ht : t ≤ lookTime es) :
    (start es).run (byClock (some t) es) = gone es t true (.error .cancelled) := by
  rw [run_byClock hstays h (mem_moments.2 (.inr rfl)) (.inl rfl), if_pos rfl]
  intro u hu
  refine ⟨fun heq => hu.ne (Option.some.inj heq).symm, fun hrousing => ?_⟩
  exact absurd (hu.trans_le ht) (not_lt.2 (lookTime_le_of_isRousing h hrousing))

/-- a run that looks before it is cancelled, if it is -/
theorem run_byClock_of_lt (h : es ≠ []) (hc : ∀ t, c = some t → lookTime es < t) :
    (start es).run (byClock c es) = gone es (lookTime es) false (settle es (lookTime es)).result := by
  have hfind := find_lookTime h
  have hmem : lookTime es ∈ moments c es := mem_moments.2 (.inl (mem_instants.1 (List.mem_of_find?_eq_some hfind)))
  have hne : c ≠ some (lookTime es) := fun heq => lt_irrefl _ (hc _ heq)
  rw [run_byClock hstays h hmem (.inr (List.find?_some hfind)), if_neg hne]
  intro u hu
  refine ⟨fun heq => (hc u heq).not_gt hu, fun hrousing => ?_⟩
  exact hu.not_ge (lookTime_le_of_isRousing h hrousing)

end Staying

end Loop

end ChangeLint.Run
