/-
The loop under a concurrent run.

Checkers and their coordinator share one loop, which makes one call after the other, first in, first out. Four things
happen: time passes and checkers become due (`elapse`), the loop makes its next call (`turn`), the run is cancelled from
outside (`cancel`), and what a checker waits for that was asked to stop comes about (`tidied`). They may come in any order.

A checker that is resumed when it was due ends on its own. One that was asked to stop answers as it likes: it ends, in
whatever way, or goes on clearing up and waits for something else. The coordinator watches until a checker has failed, or
all have ended, or the run is cancelled, and then looks:
- a failure: it asks those that are left to stop, waits until they have ended, and fails (`clearing`). If the run is cancelled
  meanwhile, it asks them again, and waits all the same;
- no failure: all have ended, and it returns what they found;
- cancelled: it asks those that are left to stop, and ends without waiting for them.
So only in the last case is the run over while checkers are left. Whoever waits for the run learns of its end by a call of its
own, and that call stands behind those which resume the checkers that were asked to stop. So a checker that ends as soon as
it is resumed has ended by then; one that goes on clearing up has not.

A checker that was due may stop the loop itself, which then makes no call any more (`halted`).

Results, for every order of events and all answers:
- `of_look`, `resume_cases`, `tidied_cases`: what single events come to;
- `inv_run`, `of_finished`: once the run is over, all have ended, unless it was cancelled; then all were asked to stop, and are
  resumed before the end is told.
-/
import ChangeLint.Proofs.Run.Outcome

namespace ChangeLint.Run

/-! ## Model -/

/-- how far a checker has come: it waits for its time, it is due, it was asked to stop, it waits for something while it clears
up, that has come about, or it has ended -/
inductive Stage
  | waiting
  | due
  | asked
  | tidying
  | tidied
  | ended (s : Status)
deriving DecidableEq, Repr

/-- a checker in the loop -/
structure Task where
  entrant : Entrant
  stage : Stage

namespace Task

/-- it waits, and no call resumes it before that comes about -/
def isIdle (t : Task) : Bool := t.stage = .waiting || t.stage = .tidying

def isEnded (t : Task) : Bool :=
  match t.stage with
  | .ended _ => true
  | _ => false

/-- its time comes -/
def isReached (now : Rat) (t : Task) : Bool := t.stage = .waiting && t.entrant.due ≤ now

def elapse (now : Rat) (t : Task) : Task := if t.isReached now then { t with stage := .due } else t

/-- it is asked to stop -/
def stop (t : Task) : Task := if t.isEnded then t else { t with stage := .asked }

/-- it goes on: on its own to its end, or, asked to stop, to the end that it chooses or to something else to wait for -/
def resume (answer : Option Status) (t : Task) : Task :=
  match t.stage with
  | .due => { t with stage := .ended t.entrant.own }
  | .asked | .tidied => { t with stage := answer.elim .tidying .ended }
  | _ => t

/-- what it waits for while it clears up comes about -/
def tidy (t : Task) : Task := if t.stage = .tidying then { t with stage := .tidied } else t

/-- the failure of a checker that has ended by failing -/
def failure? (t : Task) : Option Failure := if t.stage = .ended .raised then t.entrant.failure? else none

/-- what a checker stops the loop with when it goes on -/
def halt? (t : Task) : Option Failure := if t.stage = .due then t.entrant.halt? else none

end Task

/-- a call that the loop is to make -/
inductive Call
  /-- a checker goes on, by its place in the registry -/
  | resume (i : Nat)
  /-- the coordinator goes on -/
  | look
  /-- whoever waits for the run learns of its end -/
  | tell
deriving DecidableEq, Repr

/-- what the coordinator is at, unless the loop was stopped -/
inductive Phase
  | watching
  | clearing (f : Failure)
  | finished (r : Except Failure (List (Option (List Finding))))
  | halted (f : Failure)

/-- the loop: checkers in the order of the registry, calls to make, the coordinator, whether the run was cancelled from
outside before it was over, and whether its end was told -/
structure Loop where
  tasks : List Task
  calls : List Call
  phase : Phase
  isCancelled : Bool
  isTold : Bool

/-- what happens next; a checker that was asked to stop answers with the way in which it ends, or does not end yet -/
inductive Move
  | elapse (now : Rat)
  | turn (answer : Option Status)
  | tidied (i : Nat)
  | cancel

/-- the places of the checkers with a property -/
def places (p : Task → Bool) (ts : List Task) : List Nat := (ts.zipIdx.filter fun x => p x.1).map Prod.snd

/-- the calls that resume them -/
def resumes (p : Task → Bool) (ts : List Task) : List Call := (places p ts).map .resume

namespace Loop

/-- a run that begins; without checkers it is over at once -/
def start (es : List Entrant) : Loop :=
  if es.isEmpty then ⟨[], [], .finished (.ok []), false, true⟩ else ⟨es.map (⟨·, .waiting⟩), [], .watching, false, false⟩

def allEnded (l : Loop) : Bool := l.tasks.all Task.isEnded

/-- the first failure, in the order of the registry -/
def failure? (l : Loop) : Option Failure := l.tasks.findSome? Task.failure?

/-- true when the coordinator has what it waits for -/
def isRoused (l : Loop) : Bool :=
  match l.phase with
  | .watching => l.failure?.isSome || l.allEnded
  | .clearing _ => l.allEnded
  | .finished _ => false
  | .halted _ => false

/-- the coordinator is to go on -/
def rouse (l : Loop) : Loop := if .look ∈ l.calls then l else { l with calls := l.calls ++ [.look] }

/-- all checkers that are left are asked to stop -/
def stopAll (l : Loop) : Loop :=
  { l with tasks := l.tasks.map Task.stop, calls := l.calls ++ resumes Task.isIdle l.tasks }

/-- the run is over -/
def finish (r : Except Failure (List (Option (List Finding)))) (l : Loop) : Loop :=
  { l with phase := .finished r, calls := l.calls ++ [.tell] }

/-- a checker goes on, and stops the loop, or the coordinator goes on with it if that is what it waits for -/
def resume (answer : Option Status) (i : Nat) (l : Loop) : Loop :=
  let next : Loop := { l with tasks := l.tasks.modify i (Task.resume answer) }
  match l.tasks[i]?.bind Task.halt? with
  | some f => { next with phase := .halted f }
  | none => if next.isRoused then next.rouse else next

/-- the coordinator goes on -/
def look (l : Loop) : Loop :=
  match l.phase with
  | .watching =>
    if l.isCancelled then l.stopAll.finish (.error .cancelled)
    else
      match l.failure? with
      | some f => if l.allEnded then l.finish (.error f) else { l.stopAll with phase := .clearing f }
      | none => if l.allEnded then l.finish (collect (l.tasks.map Task.entrant)) else l
  | .clearing f => if l.allEnded then l.finish (.error (if l.isCancelled then .cancelled else f)) else l
  | .finished _ => l
  | .halted _ => l

/-- time passes, and checkers become due -/
def elapse (now : Rat) (l : Loop) : Loop :=
  { l with tasks := l.tasks.map (Task.elapse now), calls := l.calls ++ resumes (Task.isReached now) l.tasks }

/-- the loop makes its next call -/
def turn (answer : Option Status) (l : Loop) : Loop :=
  match l.phase, l.calls with
  | .halted _, _ => l
  | _, [] => l
  | _, .resume i :: calls => ({ l with calls := calls } : Loop).resume answer i
  | _, .look :: calls => ({ l with calls := calls } : Loop).look
  | _, .tell :: calls => { l with calls := calls, isTold := true }

/-- what a checker waits for while it clears up comes about -/
def tidied (i : Nat) (l : Loop) : Loop :=
  match l.tasks[i]? with
  | some ⟨_, .tidying⟩ => { l with tasks := l.tasks.modify i Task.tidy, calls := l.calls ++ [.resume i] }
  | _ => l

/-- the run is cancelled from outside; while it clears up, it goes on with that, and those that are left are asked again -/
def cancel (l : Loop) : Loop :=
  match l.phase with
  | .watching => ({ l with isCancelled := true } : Loop).rouse
  | .clearing _ => { l.stopAll with isCancelled := true }
  | .finished _ => l
  | .halted _ => l

def step (l : Loop) : Move → Loop
  | .elapse now => l.elapse now
  | .turn answer => l.turn answer
  | .tidied i => l.tidied i
  | .cancel => l.cancel

def run (l : Loop) (moves : List Move) : Loop := moves.foldl step l

end Loop

variable {t : Task} {ts : List Task} {l : Loop} {i : Nat} {p : Task → Bool} {answer : Option Status}

/-! ## Checkers -/

/-- a checker that was asked to stop, or has ended -/
def Task.IsStopped (t : Task) : Prop := t.stage ≠ .waiting ∧ t.stage ≠ .due

/-- a checker that the loop is to go on with -/
def Task.IsReady (t : Task) : Prop := t.stage = .due ∨ t.stage = .asked ∨ t.stage = .tidied

theorem isEnded_iff : t.isEnded = true ↔ ∃ s, t.stage = .ended s := by
  unfold Task.isEnded
  cases t.stage <;> simp

theorem isStopped_of_isEnded (h : t.isEnded = true) : t.IsStopped := by
  obtain ⟨s, hs⟩ := isEnded_iff.1 h
  simp [Task.IsStopped, hs]

theorem isReached_eq_false_of_isStopped (h : t.IsStopped) (now : Rat) : t.isReached now = false := by
  simp [Task.isReached, h.1]

theorem elapse_of_isStopped (h : t.IsStopped) (now : Rat) : t.elapse now = t := by
  simp [Task.elapse, isReached_eq_false_of_isStopped h]

theorem isStopped_stop (t : Task) : t.stop.IsStopped := by
  unfold Task.stop
  split_ifs with h
  · exact isStopped_of_isEnded h
  · simp [Task.IsStopped]

theorem isEnded_stop (t : Task) : t.stop.isEnded = t.isEnded := by
  unfold Task.stop
  split_ifs with h
  · rfl
  · simpa [Task.isEnded] using h

/-- who is asked to stop and is to go on was to go on before, or waited -/
theorem isIdle_or_isReady_of_stop (h : t.stop.IsReady) : t.isIdle = true ∨ t.IsReady := by
  cases hstage : t.stage with
  | waiting => simp [Task.isIdle, hstage]
  | due => simp [Task.IsReady, hstage]
  | asked => simp [Task.IsReady, hstage]
  | tidying => simp [Task.isIdle, hstage]
  | tidied => simp [Task.IsReady, hstage]
  | ended s => simp [Task.stop, Task.isEnded, Task.IsReady, hstage] at h

/-- **A checker that is resumed is not to be resumed again** -/
theorem not_isReady_resume (answer : Option Status) (t : Task) : ¬ (t.resume answer).IsReady := by
  unfold Task.resume Task.IsReady
  cases h : t.stage <;> cases answer <;> simp [h]

theorem isStopped_resume (h : t.IsStopped) (answer : Option Status) : (t.resume answer).IsStopped := by
  unfold Task.IsStopped at h ⊢
  unfold Task.resume
  cases hstage : t.stage <;> cases answer <;> simp [hstage] at h ⊢

theorem resume_of_isEnded (h : t.isEnded = true) (answer : Option Status) : t.resume answer = t := by
  obtain ⟨s, hs⟩ := isEnded_iff.1 h
  simp [Task.resume, hs]

theorem tidy_of_ne (h : t.stage ≠ .tidying) : t.tidy = t := if_neg h

theorem isStopped_tidy (h : t.IsStopped) : t.tidy.IsStopped := by
  unfold Task.tidy
  split_ifs
  · simp [Task.IsStopped]
  · exact h

theorem mem_places : i ∈ places p ts ↔ ∃ t, ts[i]? = some t ∧ p t = true := by
  simp only [places, List.mem_map, List.mem_filter, Prod.exists, List.mem_zipIdx_iff_getElem?]
  constructor
  · rintro ⟨t, j, ⟨ht, hp⟩, rfl⟩
    exact ⟨t, ht, hp⟩
  · rintro ⟨t, ht, hp⟩
    exact ⟨t, i, ⟨ht, hp⟩, rfl⟩

theorem mem_resumes : .resume i ∈ resumes p ts ↔ ∃ t, ts[i]? = some t ∧ p t = true := by
  simp [resumes, mem_places]

theorem tell_not_mem_resumes (p : Task → Bool) (ts : List Task) : .tell ∉ resumes p ts := by
  simp [resumes]

theorem places_eq_nil (h : ∀ t ∈ ts, p t = false) : places p ts = [] := by
  rw [places, List.map_eq_nil_iff, List.filter_eq_nil_iff]
  rintro ⟨t, j⟩ ht
  simp [h t (List.mem_of_getElem? (List.mem_zipIdx_iff_getElem?.1 ht))]

theorem length_places_le (p : Task → Bool) (ts : List Task) : (places p ts).length ≤ ts.length := by
  rw [places, List.length_map]
  exact (List.length_filter_le _ _).trans_eq List.length_zipIdx

/-- what holds of all checkers holds of them when one has changed, if it holds of that one -/
theorem forall_mem_modify {P : Task → Prop} {f : Task → Task} (h : ∀ t ∈ ts, P t) (hf : ∀ t, P t → P (f t)) (i : Nat) :
    ∀ t ∈ ts.modify i f, P t := by
  intro t ht
  obtain ⟨j, hj⟩ := List.mem_iff_getElem?.1 ht
  rw [List.getElem?_modify] at hj
  obtain ⟨u, hu, rfl⟩ := Option.map_eq_some_iff.1 hj
  have hP := h u (List.mem_of_getElem? hu)
  split_ifs
  · exact hf u hP
  · exact hP

/-! ## Every order of events -/

/-- an end that is not there yet: who is to go on will be resumed, and nothing is told -/
structure Loop.Open (l : Loop) : Prop where
  queued : ∀ i t, l.tasks[i]? = some t → t.IsReady → .resume i ∈ l.calls
  untold : l.isTold = false
  quiet : .tell ∉ l.calls

/-- an end that is there: whoever is left was asked to stop, and the end is told behind the calls that resume them -/
structure Loop.Left (l : Loop) : Prop where
  stopped : ∀ t ∈ l.tasks, t.IsStopped
  told : l.isTold = true → ∀ t ∈ l.tasks, t.stage ≠ .asked
  behind : l.isTold = false → ∃ before after, l.calls = before ++ .tell :: after ∧ .tell ∉ before ∧
    ∀ i t, l.tasks[i]? = some t → t.stage = .asked → .resume i ∈ before

/-- what holds of the loop, whatever has happened -/
inductive Loop.Inv (l : Loop) : Prop
  | watching (hphase : l.phase = .watching) (hopen : l.Open)
  | clearing {f : Failure} (hphase : l.phase = .clearing f) (hopen : l.Open) (hstopped : ∀ t ∈ l.tasks, t.IsStopped)
  | finished {r : Except Failure (List (Option (List Finding)))} (hphase : l.phase = .finished r) (hleft : l.Left)
    (hnone : l.isCancelled = true → r = .error .cancelled) (hall : l.isCancelled = false → ∀ t ∈ l.tasks, t.isEnded = true)
  | halted {f : Failure} (hphase : l.phase = .halted f)

namespace Loop

theorem inv_start (es : List Entrant) : Inv (start es) := by
  unfold start
  split_ifs
  · exact .finished rfl ⟨by simp, by simp, by simp⟩ (by simp) (by simp)
  · refine .watching rfl ⟨?_, rfl, by simp⟩
    intro i t ht hready
    obtain ⟨e, -, rfl⟩ := List.mem_map.1 (List.mem_of_getElem? ht)
    simp [Task.IsReady] at hready

/-! ### Single events -/

theorem elapse_eq_self (h : ∀ t ∈ l.tasks, t.IsStopped) (now : Rat) : l.elapse now = l := by
  have htasks : l.tasks.map (Task.elapse now) = l.tasks := by
    rw [List.map_congr_left fun t ht => elapse_of_isStopped (h t ht) now, List.map_id']
  have hcalls : resumes (Task.isReached now) l.tasks = [] :=
    congrArg (List.map Call.resume) (places_eq_nil fun t ht => isReached_eq_false_of_isStopped (h t ht) now)
  simp only [elapse, htasks, hcalls, List.append_nil]

theorem open_elapse (h : l.Open) (now : Rat) : (l.elapse now).Open := by
  refine ⟨?_, h.untold, ?_⟩
  · intro i t ht hready
    simp only [elapse, List.getElem?_map, Option.map_eq_some_iff] at ht
    obtain ⟨t, ht, rfl⟩ := ht
    simp only [elapse, List.mem_append, mem_resumes]
    unfold Task.elapse at hready
    split_ifs at hready with hdue
    · exact .inr ⟨t, ht, hdue⟩
    · exact .inl (h.queued i t ht hready)
  · simp only [elapse, List.mem_append, not_or]
    exact ⟨h.quiet, tell_not_mem_resumes _ _⟩

theorem mem_calls_rouse {c : Call} : c ∈ l.rouse.calls ↔ c ∈ l.calls ∨ c = .look := by
  unfold rouse
  split_ifs with h
  · constructor
    · exact .inl
    · rintro (hc | rfl)
      · exact hc
      · exact h
  · simp

theorem rouse_tasks (l : Loop) : l.rouse.tasks = l.tasks := by
  unfold rouse
  split_ifs <;> rfl

theorem rouse_phase (l : Loop) : l.rouse.phase = l.phase := by
  unfold rouse
  split_ifs <;> rfl

theorem rouse_isCancelled (l : Loop) : l.rouse.isCancelled = l.isCancelled := by
  unfold rouse
  split_ifs <;> rfl

theorem rouse_isTold (l : Loop) : l.rouse.isTold = l.isTold := by
  unfold rouse
  split_ifs <;> rfl

theorem open_rouse (h : l.Open) : l.rouse.Open := by
  refine ⟨?_, (rouse_isTold l).trans h.untold, ?_⟩
  · intro i t ht hready
    rw [rouse_tasks] at ht
    exact mem_calls_rouse.2 (.inl (h.queued i t ht hready))
  · rw [mem_calls_rouse]
    rintro (hc | hc)
    · exact h.quiet hc
    · cases hc

/-- after a checker has gone on, the ones that are to go on are other ones, and were so before -/
theorem getElem?_modify_resume {j : Nat} (ht : (ts.modify i (Task.resume answer))[j]? = some t) (hready : t.IsReady) :
    j ≠ i ∧ ts[j]? = some t := by
  rw [List.getElem?_modify] at ht
  obtain ⟨u, hu, rfl⟩ := Option.map_eq_some_iff.1 ht
  split_ifs at hready ⊢ with hij
  · exact absurd hready (not_isReady_resume answer u)
  · exact ⟨fun h => hij h.symm, hu⟩

/-- a checker that goes on, and what becomes of the coordinator -/
theorem resume_cases (answer : Option Status) (i : Nat) (l : Loop) :
    (∃ f t, l.tasks[i]? = some t ∧ t.stage = .due ∧
        l.resume answer i = { l with tasks := l.tasks.modify i (Task.resume answer), phase := .halted f }) ∨
      l.resume answer i = { l with tasks := l.tasks.modify i (Task.resume answer) } ∨
      l.resume answer i = ({ l with tasks := l.tasks.modify i (Task.resume answer) } : Loop).rouse := by
  unfold resume
  dsimp only
  split
  · rename_i f hhalt
    obtain ⟨t, ht, hf⟩ := Option.bind_eq_some_iff.1 hhalt
    unfold Task.halt? at hf
    split_ifs at hf with hdue
    exact .inl ⟨f, t, ht, hdue, rfl⟩
  · split_ifs
    · exact .inr (.inr rfl)
    · exact .inr (.inl rfl)

theorem open_resume {calls : List Call} (h : l.Open) (hcalls : l.calls = .resume i :: calls) (answer : Option Status) :
    ({ l with tasks := l.tasks.modify i (Task.resume answer), calls := calls } : Loop).Open := by
  refine ⟨?_, h.untold, fun hc => h.quiet (hcalls ▸ List.mem_cons_of_mem _ hc)⟩
  intro j t ht hready
  obtain ⟨hne, htask⟩ := getElem?_modify_resume ht hready
  have hmem := h.queued j t htask hready
  rw [hcalls] at hmem
  refine (List.mem_cons.1 hmem).resolve_left ?_
  intro heq
  exact hne (Call.resume.inj heq)

theorem open_stopAll (h : l.Open) : l.stopAll.Open := by
  refine ⟨?_, h.untold, ?_⟩
  · intro i t ht hready
    simp only [stopAll, List.getElem?_map, Option.map_eq_some_iff] at ht
    obtain ⟨t, ht, rfl⟩ := ht
    simp only [stopAll, List.mem_append, mem_resumes]
    rcases isIdle_or_isReady_of_stop hready with hidle | hbefore
    · exact .inr ⟨t, ht, hidle⟩
    · exact .inl (h.queued i t ht hbefore)
  · simp only [stopAll, List.mem_append, not_or]
    exact ⟨h.quiet, tell_not_mem_resumes _ _⟩

theorem stopped_stopAll (l : Loop) : ∀ t ∈ l.stopAll.tasks, t.IsStopped := by
  intro t ht
  obtain ⟨u, -, rfl⟩ := List.mem_map.1 ht
  exact isStopped_stop u

/-- **A run that is over leaves nobody behind its end** -/
theorem left_finish (h : l.Open) (hstopped : ∀ t ∈ l.tasks, t.IsStopped)
    (r : Except Failure (List (Option (List Finding)))) : (l.finish r).Left := by
  refine ⟨hstopped, ?_, fun _ => ⟨l.calls, [], rfl, h.quiet, ?_⟩⟩
  · intro htold
    have huntold : l.isTold = true := htold
    rw [h.untold] at huntold
    cases huntold
  · intro i t ht hasked
    exact h.queued i t ht (.inr (.inl hasked))

theorem allEnded_iff : l.allEnded = true ↔ ∀ t ∈ l.tasks, t.isEnded = true := List.all_eq_true

theorem isStopped_of_allEnded (h : l.allEnded = true) : ∀ t ∈ l.tasks, t.IsStopped :=
  fun t ht => isStopped_of_isEnded (allEnded_iff.1 h t ht)

theorem open_pop {c : Call} {calls : List Call} (h : l.Open) (hcalls : l.calls = c :: calls) (hc : ∀ i, c ≠ .resume i) :
    ({ l with calls := calls } : Loop).Open := by
  refine ⟨?_, h.untold, fun ht => h.quiet (hcalls ▸ List.mem_cons_of_mem _ ht)⟩
  intro i t ht hready
  have hmem := h.queued i t ht hready
  rw [hcalls] at hmem
  exact (List.mem_cons.1 hmem).resolve_left fun heq => hc i heq.symm

/-! ### Steps and runs -/

theorem inv_elapse (h : l.Inv) (now : Rat) : (l.elapse now).Inv := by
  cases h with
  | watching hphase hopen => exact .watching hphase (open_elapse hopen now)
  | clearing hphase hopen hstopped =>
    rw [elapse_eq_self hstopped]
    exact .clearing hphase hopen hstopped
  | finished hphase hleft hnone hall =>
    rw [elapse_eq_self hleft.stopped]
    exact .finished hphase hleft hnone hall
  | halted hphase => exact .halted hphase

theorem inv_cancel (h : l.Inv) : l.cancel.Inv := by
  unfold cancel
  cases h with
  | watching hphase hopen =>
    rw [hphase]
    exact .watching (rouse_phase _) (open_rouse ⟨hopen.queued, hopen.untold, hopen.quiet⟩)
  | clearing hphase hopen hstopped =>
    have hopen' := open_stopAll hopen
    rw [hphase]
    exact .clearing hphase ⟨hopen'.queued, hopen'.untold, hopen'.quiet⟩ (stopped_stopAll l)
  | finished hphase hleft hnone hall =>
    rw [hphase]
    exact .finished hphase hleft hnone hall
  | halted hphase =>
    rw [hphase]
    exact .halted hphase

/-- what a checker waited for while it cleared up: it is to go on, behind all other calls -/
theorem tidied_cases (i : Nat) (l : Loop) :
    l.tidied i = l ∨
      (∃ e, l.tasks[i]? = some ⟨e, .tidying⟩) ∧
        l.tidied i = { l with tasks := l.tasks.modify i Task.tidy, calls := l.calls ++ [.resume i] } := by
  unfold tidied
  split
  · rename_i e ht
    exact .inr ⟨⟨e, ht⟩, rfl⟩
  · exact .inl rfl

theorem open_tidied (h : l.Open) :
    ({ l with tasks := l.tasks.modify i Task.tidy, calls := l.calls ++ [.resume i] } : Loop).Open := by
  refine ⟨?_, h.untold, by simpa using h.quiet⟩
  intro j t ht hready
  by_cases hij : i = j
  · simp [hij]
  · obtain ⟨u, hu, rfl⟩ := Option.map_eq_some_iff.1 ((List.getElem?_modify ..).symm.trans ht)
    rw [if_neg hij] at hready
    exact List.mem_append_left _ (h.queued j u hu hready)

theorem left_tidied (h : l.Left) :
    ({ l with tasks := l.tasks.modify i Task.tidy, calls := l.calls ++ [.resume i] } : Loop).Left := by
  refine ⟨forall_mem_modify h.stopped (fun _ => isStopped_tidy) i, ?_, ?_⟩
  · intro htold
    refine forall_mem_modify (h.told htold) (fun t ht => ?_) i
    unfold Task.tidy
    split_ifs
    · exact Stage.noConfusion
    · exact ht
  · intro htold
    obtain ⟨before, after, hsplit, hquiet, hqueued⟩ := h.behind htold
    refine ⟨before, after ++ [.resume i], by simp [hsplit], hquiet, ?_⟩
    intro j t ht hasked
    rw [List.getElem?_modify] at ht
    obtain ⟨u, hu, rfl⟩ := Option.map_eq_some_iff.1 ht
    refine hqueued j u hu ?_
    unfold Task.tidy at hasked
    split_ifs at hasked
    · exact hasked
    · exact hasked

theorem inv_tidied (h : l.Inv) (i : Nat) : (l.tidied i).Inv := by
  rcases tidied_cases i l with hsame | ⟨⟨e, htidying⟩, htidied⟩
  · rwa [hsame]
  · rw [htidied]
    cases h with
    | watching hphase hopen => exact .watching hphase (open_tidied hopen)
    | clearing hphase hopen hstopped =>
      exact .clearing hphase (open_tidied hopen) (forall_mem_modify hstopped (fun _ => isStopped_tidy) i)
    | finished hphase hleft hnone hall =>
      refine .finished hphase (left_tidied hleft) hnone fun hcancelled => ?_
      -- somebody is left, so the run was cancelled
      have hended := hall hcancelled _ (List.mem_of_getElem? htidying)
      cases hended
    | halted hphase => exact .halted hphase

/-- **What a look comes to**: the coordinator leaves, clears up, ends, or goes on waiting -/
theorem of_look {P : Loop → Prop} (l : Loop)
    (hleaves : l.phase = .watching → l.isCancelled = true → P (l.stopAll.finish (.error .cancelled)))
    (hclears : ∀ f, l.phase = .watching → P { l.stopAll with phase := .clearing f })
    (hends : ∀ r, (l.phase = .watching ∨ ∃ f, l.phase = .clearing f) → l.allEnded = true →
      (l.isCancelled = true → r = .error .cancelled) → P (l.finish r))
    (hwaits : P l) : P l.look := by
  unfold look
  cases hphase : l.phase with
  | watching =>
    dsimp only
    by_cases hcancelled : l.isCancelled = true
    · rw [if_pos hcancelled]
      exact hleaves hphase hcancelled
    · rw [if_neg hcancelled]
      cases l.failure? with
      | some f =>
        dsimp only
        split_ifs with hall
        · exact hends _ (.inl hphase) hall fun hc => absurd hc hcancelled
        · exact hclears f hphase
      | none =>
        dsimp only
        split_ifs with hall
        · exact hends _ (.inl hphase) hall fun hc => absurd hc hcancelled
        · exact hwaits
  | clearing f =>
    dsimp only
    split_ifs with hall hcancelled
    · exact hends _ (.inr ⟨f, hphase⟩) hall fun _ => rfl
    · exact hends _ (.inr ⟨f, hphase⟩) hall fun hc => absurd hc hcancelled
    · exact hwaits
  | finished r => exact hwaits
  | halted f => exact hwaits

theorem Inv.isOpen (h : l.Inv) (hphase : l.phase = .watching ∨ ∃ f, l.phase = .clearing f) : l.Open := by
  cases h with
  | watching _ hopen => exact hopen
  | clearing _ hopen => exact hopen
  | finished hfinished => simp [hfinished] at hphase
  | halted hhalted => simp [hhalted] at hphase

theorem inv_look (h : l.Inv) : l.look.Inv := by
  refine of_look l (fun hphase hcancelled => ?leaves) (fun f hphase => ?clears) (fun r hphase hall hr => ?ends) h
  case leaves =>
    have hopen := open_stopAll (h.isOpen (.inl hphase))
    refine .finished rfl (left_finish hopen (stopped_stopAll l) _) (fun _ => rfl) fun hc => ?_
    exact absurd (hcancelled.symm.trans hc) (by decide)
  case clears =>
    have hopen := open_stopAll (h.isOpen (.inl hphase))
    exact .clearing rfl ⟨hopen.queued, hopen.untold, hopen.quiet⟩ (stopped_stopAll l)
  case ends =>
    exact .finished rfl (left_finish (h.isOpen hphase) (isStopped_of_allEnded hall) r) hr fun _ => allEnded_iff.1 hall

theorem left_resume {calls : List Call} (h : l.Left) (hcalls : l.calls = .resume i :: calls) (answer : Option Status) :
    ({ l with tasks := l.tasks.modify i (Task.resume answer), calls := calls } : Loop).Left := by
  refine ⟨forall_mem_modify h.stopped (fun _ ht => isStopped_resume ht answer) i, ?_, ?_⟩
  · intro htold
    refine forall_mem_modify (h.told htold) (fun t _ hasked => ?_) i
    exact not_isReady_resume answer t (.inr (.inl hasked))
  · intro htold
    obtain ⟨before, after, hsplit, hquiet, hqueued⟩ := h.behind htold
    rw [hcalls] at hsplit
    cases before with
    | nil => cases hsplit
    | cons c before =>
      obtain ⟨rfl, hrest⟩ := List.cons.inj hsplit
      refine ⟨before, after, hrest, fun hc => hquiet (List.mem_cons_of_mem _ hc), ?_⟩
      intro j t ht hasked
      obtain ⟨hne, htask⟩ := getElem?_modify_resume ht (.inr (.inl hasked))
      refine (List.mem_cons.1 (hqueued j t htask hasked)).resolve_left ?_
      intro heq
      exact hne (Call.resume.inj heq)

theorem left_pop {calls : List Call} (h : l.Left) (hcalls : l.calls = .look :: calls) :
    ({ l with calls := calls } : Loop).Left := by
  refine ⟨h.stopped, h.told, ?_⟩
  intro htold
  obtain ⟨before, after, hsplit, hquiet, hqueued⟩ := h.behind htold
  rw [hcalls] at hsplit
  cases before with
  | nil => cases hsplit
  | cons c before =>
    obtain ⟨rfl, hrest⟩ := List.cons.inj hsplit
    refine ⟨before, after, hrest, fun hc => hquiet (List.mem_cons_of_mem _ hc), ?_⟩
    intro j t ht hasked
    exact (List.mem_cons.1 (hqueued j t ht hasked)).resolve_left (by simp)

/-- **The end is told when all who were asked to stop were resumed** -/
theorem left_tell {calls : List Call} (h : l.Left) (hcalls : l.calls = .tell :: calls) :
    ({ l with calls := calls, isTold := true } : Loop).Left := by
  refine ⟨h.stopped, fun _ => ?_, by simp⟩
  by_cases htold : l.isTold = true
  · exact h.told htold
  · obtain ⟨before, after, hsplit, hquiet, hqueued⟩ := h.behind (by simpa using htold)
    rw [hcalls] at hsplit
    cases before with
    | cons c before =>
      obtain ⟨rfl, -⟩ := List.cons.inj hsplit
      exact absurd List.mem_cons_self hquiet
    | nil =>
      -- no call stands before it, so nobody is still to be resumed
      intro t ht hasked
      obtain ⟨j, hj⟩ := List.mem_iff_getElem?.1 ht
      exact List.not_mem_nil (hqueued j t hj hasked)

theorem resume_of_finished {r : Except Failure (List (Option (List Finding)))} (h : l.phase = .finished r)
    (hstopped : ∀ t ∈ l.tasks, t.IsStopped) :
    l.resume answer i = { l with tasks := l.tasks.modify i (Task.resume answer) } := by
  have hhalt : l.tasks[i]?.bind Task.halt? = none := by
    rw [Option.bind_eq_none_iff]
    intro t ht
    simp [Task.halt?, (hstopped t (List.mem_of_getElem? ht)).2]
  simp [resume, hhalt, isRoused, h]

theorem inv_resume {calls : List Call} (h : l.Inv) (hcalls : l.calls = .resume i :: calls) :
    (({ l with calls := calls } : Loop).resume answer i).Inv := by
  cases h with
  | watching hphase hopen =>
    have hopen' := open_resume hopen hcalls answer
    rcases resume_cases answer i { l with calls := calls } with ⟨f, -, -, -, heq⟩ | heq | heq
    · rw [heq]
      exact .halted rfl
    · rw [heq]
      exact .watching hphase hopen'
    · rw [heq]
      exact .watching ((rouse_phase _).trans hphase) (open_rouse hopen')
  | clearing hphase hopen hstopped =>
    have hopen' := open_resume hopen hcalls answer
    have hstopped' := forall_mem_modify hstopped (fun _ ht => isStopped_resume ht answer) i
    rcases resume_cases answer i { l with calls := calls } with ⟨f, t, ht, hdue, -⟩ | heq | heq
    · exact absurd hdue (hstopped t (List.mem_of_getElem? ht)).2
    · rw [heq]
      exact .clearing hphase hopen' hstopped'
    · rw [heq]
      refine .clearing ((rouse_phase _).trans hphase) (open_rouse hopen') ?_
      rw [rouse_tasks]
      exact hstopped'
  | finished hphase hleft hnone hall =>
    have hleft' := left_resume hleft hcalls answer
    rw [resume_of_finished (l := { l with calls := calls }) hphase hleft.stopped]
    refine .finished hphase hleft' hnone fun hc => forall_mem_modify (hall hc) (fun t ht => ?_) i
    rwa [resume_of_isEnded ht]
  | halted hphase =>
    rcases resume_cases answer i { l with calls := calls } with ⟨f, -, -, -, heq⟩ | heq | heq
    · rw [heq]
      exact .halted rfl
    · rw [heq]
      exact .halted hphase
    · rw [heq]
      exact .halted ((rouse_phase _).trans hphase)

theorem inv_turn (h : l.Inv) (answer : Option Status) : (l.turn answer).Inv := by
  unfold turn
  split
  · exact h
  · exact h
  · rename_i hcalls _
    exact inv_resume h hcalls
  · rename_i calls hcalls _
    refine inv_look (l := { l with calls := calls }) ?_
    cases h with
    | watching hphase hopen => exact .watching hphase (open_pop hopen hcalls (by simp))
    | clearing hphase hopen hstopped => exact .clearing hphase (open_pop hopen hcalls (by simp)) hstopped
    | finished hphase hleft hnone hall => exact .finished hphase (left_pop hleft hcalls) hnone hall
    | halted hphase => exact .halted hphase
  · rename_i hcalls _
    cases h with
    | watching hphase hopen => exact absurd (hcalls ▸ List.mem_cons_self) hopen.quiet
    | clearing hphase hopen hstopped => exact absurd (hcalls ▸ List.mem_cons_self) hopen.quiet
    | finished hphase hleft hnone hall => exact .finished hphase (left_tell hleft hcalls) hnone hall
    | halted hphase => exact .halted hphase

theorem inv_step (h : l.Inv) (m : Move) : (l.step m).Inv := by
  cases m with
  | elapse now => exact inv_elapse h now
  | turn answer => exact inv_turn h answer
  | tidied i => exact inv_tidied h i
  | cancel => exact inv_cancel h

theorem inv_run (h : l.Inv) (moves : List Move) : (l.run moves).Inv := by
  induction moves generalizing l with
  | nil => exact h
  | cons m moves ih => exact ih (inv_step h m)

/-- **A run that is over**: nobody is left unless it was cancelled; if it was, it found nothing and asked all to stop -/
theorem of_finished (h : l.Inv) {r : Except Failure (List (Option (List Finding)))} (hphase : l.phase = .finished r) :
    (∀ t ∈ l.tasks, t.IsStopped) ∧ (l.isCancelled = true → r = .error .cancelled) ∧
      (l.isCancelled = false → ∀ t ∈ l.tasks, t.isEnded = true) := by
  cases h with
  | watching h => simp [h] at hphase
  | clearing h => simp [h] at hphase
  | finished h hleft hnone hall =>
    obtain rfl := Phase.finished.inj (h.symm.trans hphase)
    exact ⟨hleft.stopped, hnone, hall⟩
  | halted h => simp [h] at hphase

end Loop

end ChangeLint.Run
