/-
Who is left when a run is over.

A run that was not cancelled is over when all its checkers have ended, and so is one that had seen a failure before it was
cancelled. One that was cancelled while it watched is over at once: it has asked all who are left to stop, and does not wait
for them (`outlived_runs`). By the clock, with checkers that end as soon as they are asked to, the loop ends as `gather` says.

Results:
- `next_step`: what one event makes of each checker; none is lost (`entrants_run`), and nobody clears up at length unless a
  checker answers so (`brisk_run`);
- `cleared_run`: a run that has seen a failure waits for all, whatever happens then;
- `gone_gather`: by the clock, the loop has the statuses and the end of the run;
- `contained_runs`: these together, for runs of diff checkers and of merge-request checkers;
- `outlived_runs`: a cancelled run with a checker that clears up, and a run that fails before its checker is started.
-/
import ChangeLint.Proofs.Run.Clock

namespace ChangeLint.Run

variable {es : List Entrant} {l : Loop} {t u : Task} {m : Move} {f : Failure}
  {r : Except Failure (List (Option (List Finding)))}

/-! ## What becomes of checkers -/

/-- what one event may make of a checker -/
inductive Task.Next (m : Move) (t : Task) : Task → Prop
  | same : Next m t t
  | elapse (now : Rat) : Next m t (t.elapse now)
  | resume {answer : Option Status} (h : m = .turn answer) : Next m t (t.resume answer)
  | tidy : Next m t t.tidy
  | stop : Next m t t.stop

theorem Task.Next.entrant_eq (h : t.Next m u) : u.entrant = t.entrant := by
  cases h with
  | same => rfl
  | elapse now =>
    unfold Task.elapse
    split_ifs <;> rfl
  | resume => exact entrant_resume _ t
  | tidy =>
    unfold Task.tidy
    split_ifs <;> rfl
  | stop =>
    unfold Task.stop
    split_ifs <;> rfl

/-- nobody takes time to clear up whom none lets do so -/
theorem Task.Next.brisk (h : t.Next m u) (hm : m ≠ .turn none) (ht : t.stage ≠ .tidying ∧ t.stage ≠ .tidied) :
    u.stage ≠ .tidying ∧ u.stage ≠ .tidied := by
  cases h with
  | same => exact ht
  | elapse now =>
    unfold Task.elapse
    split_ifs
    · exact ⟨nofun, nofun⟩
    · exact ht
  | @resume answer hturn =>
    obtain ⟨s, rfl⟩ : ∃ s, answer = some s := Option.ne_none_iff_exists'.1 fun hnone => hm (hnone ▸ hturn)
    unfold Task.resume
    cases hstage : t.stage <;> simp [hstage] at ht ⊢
  | tidy => rwa [tidy_of_ne ht.1]
  | stop =>
    unfold Task.stop
    split_ifs
    · exact ht
    · exact ⟨nofun, nofun⟩

theorem next_map {g : Task → Task} (hg : ∀ t : Task, t.Next m (g t)) (ts : List Task) :
    List.Forall₂ (Task.Next m) ts (ts.map g) :=
  List.forall₂_map_right_iff.2 (List.forall₂_same.2 fun t _ => hg t)

theorem next_modify {g : Task → Task} (hg : ∀ t : Task, t.Next m (g t)) (ts : List Task) (i : Nat) :
    List.Forall₂ (Task.Next m) ts (ts.modify i g) := by
  induction ts generalizing i with
  | nil => simp
  | cons t ts ih =>
    cases i with
    | zero => exact .cons (hg t) (List.forall₂_same.2 fun _ _ => .same)
    | succ i => exact .cons .same (ih i)

namespace Loop

theorem next_same (l : Loop) (m : Move) : List.Forall₂ (Task.Next m) l.tasks l.tasks := List.forall₂_same.2 fun _ _ => .same

theorem next_stopAll (l : Loop) (m : Move) : List.Forall₂ (Task.Next m) l.tasks l.stopAll.tasks :=
  next_map (fun _ => .stop) l.tasks

theorem next_look (l : Loop) (m : Move) : List.Forall₂ (Task.Next m) l.tasks l.look.tasks :=
  of_look (P := fun l' => List.Forall₂ (Task.Next m) l.tasks l'.tasks) l (fun _ _ => next_stopAll l m)
    (fun _ _ => next_stopAll l m) (fun _ _ _ _ => next_same l m) (next_same l m)

theorem resume_tasks (answer : Option Status) (i : Nat) (l : Loop) :
    (l.resume answer i).tasks = l.tasks.modify i (Task.resume answer) := by
  rcases resume_cases answer i l with ⟨f, t, -, -, heq⟩ | heq | heq
  · rw [heq]
  · rw [heq]
  · rw [heq, rouse_tasks]

/-- **What one event makes of the checkers** -/
theorem next_step (l : Loop) (m : Move) : List.Forall₂ (Task.Next m) l.tasks (l.step m).tasks := by
  cases m with
  | elapse now => exact next_map (fun _ => .elapse now) l.tasks
  | turn answer =>
    rw [step, turn]
    split
    · exact next_same l _
    · exact next_same l _
    · rw [resume_tasks]
      exact next_modify (fun _ => .resume rfl) l.tasks _
    · rename_i calls _ _
      exact next_look { l with calls := calls } _
    · exact next_same l _
  | tidied i =>
    rw [step]
    rcases tidied_cases i l with hsame | ⟨-, htidied⟩
    · rw [hsame]
      exact next_same l _
    · rw [htidied]
      exact next_modify (fun _ => .tidy) l.tasks i
  | cancel =>
    rw [step, cancel]
    split
    · rw [rouse_tasks]
      exact next_same l _
    · exact next_stopAll l _
    · exact next_same l _
    · exact next_same l _

theorem entrants_step (l : Loop) (m : Move) : (l.step m).tasks.map Task.entrant = l.tasks.map Task.entrant := by
  have h := next_step l m
  generalize l.tasks = ts at h ⊢
  generalize (l.step m).tasks = us at h ⊢
  induction h with
  | nil => rfl
  | cons htu _ ih => rw [List.map_cons, List.map_cons, htu.entrant_eq, ih]

theorem entrants_start (es : List Entrant) : (start es).tasks.map Task.entrant = es := by
  unfold start
  split_ifs with h
  · rw [List.isEmpty_iff.1 h]
    rfl
  · simp [Function.comp_def]

/-- **No checker is lost** -/
theorem entrants_run (es : List Entrant) (moves : List Move) : ((start es).run moves).tasks.map Task.entrant = es := by
  suffices h : ∀ l : Loop, (l.run moves).tasks.map Task.entrant = l.tasks.map Task.entrant from
    (h (start es)).trans (entrants_start es)
  induction moves with
  | nil => exact fun _ => rfl
  | cons m moves ih => exact fun l => (ih (l.step m)).trans (entrants_step l m)

/-! ## Checkers that end as soon as they are resumed -/

/-- nobody takes time to clear up -/
def Brisk (l : Loop) : Prop := ∀ t ∈ l.tasks, t.stage ≠ .tidying ∧ t.stage ≠ .tidied

theorem brisk_start (es : List Entrant) : (start es).Brisk := by
  unfold start
  split_ifs
  · simp [Brisk]
  · intro t ht
    obtain ⟨e, -, rfl⟩ := List.mem_map.1 ht
    exact ⟨nofun, nofun⟩

theorem brisk_step (h : l.Brisk) (hm : m ≠ .turn none) : (l.step m).Brisk := by
  unfold Brisk at h ⊢
  have hnext := next_step l m
  generalize l.tasks = ts at h hnext
  generalize (l.step m).tasks = us at hnext ⊢
  induction hnext with
  | nil => exact h
  | cons htu _ ih =>
    rw [List.forall_mem_cons] at h ⊢
    exact ⟨htu.brisk hm h.1, ih h.2⟩

theorem brisk_run (h : l.Brisk) {moves : List Move} (hmoves : .turn none ∉ moves) : (l.run moves).Brisk := by
  induction moves generalizing l with
  | nil => exact h
  | cons m moves ih =>
    rw [List.mem_cons, not_or] at hmoves
    exact ih (brisk_step h (Ne.symm hmoves.1)) hmoves.2

/-- **Nobody is left when the end is told**, if nobody takes time to clear up -/
theorem isEnded_of_isTold (h : l.Inv) (hbrisk : l.Brisk) (htold : l.isTold = true) (hhalted : ∀ f, l.phase ≠ .halted f) :
    ∀ t ∈ l.tasks, t.isEnded = true := by
  cases h with
  | watching _ hopen => simp [hopen.untold] at htold
  | clearing _ hopen => simp [hopen.untold] at htold
  | finished _ hleft _ _ =>
    intro t ht
    have hstopped := hleft.stopped t ht
    have hasked := hleft.told htold t ht
    have hidle := hbrisk t ht
    unfold Task.IsStopped at hstopped
    cases hstage : t.stage <;> simp_all [Task.isEnded]
  | halted hphase => exact absurd hphase (hhalted _)

/-! ## Runs that have seen a failure -/

/-- the coordinator clears up after a failure, or did so and nobody is left -/
def Cleared (l : Loop) : Prop :=
  (∃ f, l.phase = .clearing f ∧ ∀ t ∈ l.tasks, t.IsStopped) ∨ (∃ r, l.phase = .finished r) ∧ ∀ t ∈ l.tasks, t.isEnded = true

theorem cleared_resume (h : l.Cleared) (answer : Option Status) (i : Nat) : (l.resume answer i).Cleared := by
  have hstopped : ∀ t ∈ l.tasks, t.IsStopped := by
    rcases h with ⟨-, -, hstopped⟩ | ⟨-, hall⟩
    · exact hstopped
    · exact fun t ht => isStopped_of_isEnded (hall t ht)
  have hcleared : ({ l with tasks := l.tasks.modify i (Task.resume answer) } : Loop).Cleared := by
    rcases h with ⟨f, hphase, -⟩ | ⟨hphase, hall⟩
    · exact .inl ⟨f, hphase, forall_mem_modify hstopped (fun _ ht => isStopped_resume ht answer) i⟩
    · refine .inr ⟨hphase, forall_mem_modify hall (fun t ht => ?_) i⟩
      rwa [resume_of_isEnded ht]
  rcases resume_cases answer i l with ⟨f, t, ht, hdue, -⟩ | heq | heq
  · exact absurd hdue (hstopped t (List.mem_of_getElem? ht)).2
  · rwa [heq]
  · rw [heq, Cleared, rouse_phase, rouse_tasks]
    exact hcleared

theorem cleared_look (h : l.Cleared) : l.look.Cleared := by
  unfold look
  rcases h with ⟨f, hphase, hstopped⟩ | ⟨⟨r, hphase⟩, hall⟩
  · rw [hphase]
    dsimp only
    split_ifs with hall
    · exact .inr ⟨⟨_, rfl⟩, allEnded_iff.1 hall⟩
    · exact .inr ⟨⟨_, rfl⟩, allEnded_iff.1 hall⟩
    · exact .inl ⟨f, hphase, hstopped⟩
  · rw [hphase]
    exact .inr ⟨⟨r, hphase⟩, hall⟩

theorem cleared_turn (h : l.Cleared) (answer : Option Status) : (l.turn answer).Cleared := by
  unfold turn
  split
  · exact h
  · exact h
  · rename_i calls _ _
    exact cleared_resume (l := { l with calls := calls }) h answer _
  · rename_i calls _ _
    exact cleared_look (l := { l with calls := calls }) h
  · exact h

theorem cleared_step (h : l.Cleared) (m : Move) : (l.step m).Cleared := by
  cases m with
  | elapse now =>
    have hstopped : ∀ t ∈ l.tasks, t.IsStopped := by
      rcases h with ⟨-, -, hstopped⟩ | ⟨-, hall⟩
      · exact hstopped
      · exact fun t ht => isStopped_of_isEnded (hall t ht)
    rwa [step, elapse_eq_self hstopped]
  | turn answer => exact cleared_turn h answer
  | tidied i =>
    rw [step]
    rcases tidied_cases i l with hsame | ⟨-, htidied⟩
    · rwa [hsame]
    · rw [htidied]
      rcases h with ⟨f, hphase, hstopped⟩ | ⟨hphase, hall⟩
      · exact .inl ⟨f, hphase, forall_mem_modify hstopped (fun _ => isStopped_tidy) i⟩
      · refine .inr ⟨hphase, forall_mem_modify hall (fun t ht => ?_) i⟩
        rwa [tidy_of_ne (by obtain ⟨s, hs⟩ := isEnded_iff.1 ht; simp [hs])]
  | cancel =>
    rw [step, cancel]
    rcases h with ⟨f, hphase, -⟩ | ⟨⟨r, hphase⟩, hall⟩
    · rw [hphase]
      exact .inl ⟨f, hphase, stopped_stopAll l⟩
    · rw [hphase]
      exact .inr ⟨⟨r, hphase⟩, hall⟩

theorem cleared_run (h : l.Cleared) (moves : List Move) : (l.run moves).Cleared := by
  induction moves generalizing l with
  | nil => exact h
  | cons m moves ih => exact ih (cleared_step h m)

/-- **A run that has seen a failure waits for all**, also when it is cancelled then -/
theorem isEnded_of_cleared (h : l.Inv) {f : Failure} (hphase : l.phase = .clearing f) (moves : List Move)
    {r : Except Failure (List (Option (List Finding)))} (hover : (l.run moves).phase = .finished r) :
    ∀ t ∈ (l.run moves).tasks, t.isEnded = true := by
  have hcleared : l.Cleared := by
    cases h with
    | watching h => simp [h] at hphase
    | clearing h _ hstopped => exact .inl ⟨_, h, hstopped⟩
    | finished h => simp [h] at hphase
    | halted h => simp [h] at hphase
  rcases cleared_run hcleared moves with ⟨g, hg, -⟩ | ⟨-, hall⟩
  · simp [hg] at hover
  · exact hall

/-! ## Cancelling -/

theorem isCancelled_step (hm : m ≠ .cancel) : (l.step m).isCancelled = l.isCancelled := by
  cases m with
  | elapse now => rfl
  | turn answer =>
    rw [step, turn]
    split
    · rfl
    · rfl
    · rename_i i calls _ _
      rcases resume_cases answer i { l with calls := calls } with ⟨f, t, -, -, heq⟩ | heq | heq
      · rw [heq]
      · rw [heq]
      · rw [heq, rouse_isCancelled]
    · rename_i calls _ _
      exact of_look (P := fun l' => l'.isCancelled = l.isCancelled) { l with calls := calls } (fun _ _ => rfl)
        (fun _ _ => rfl) (fun _ _ _ _ => rfl) rfl
    · rfl
  | tidied i =>
    rw [step]
    rcases tidied_cases i l with hsame | ⟨-, htidied⟩
    · rw [hsame]
    · rw [htidied]
  | cancel => exact absurd rfl hm

/-- a run that is cancelled, unless it is over -/
theorem cancel_cases (l : Loop) : l.cancel.isCancelled = true ∨ l.cancel = l := by
  unfold cancel
  split
  · exact .inl (rouse_isCancelled _)
  · exact .inl rfl
  · exact .inr rfl
  · exact .inr rfl

/-- a run that nobody cancels -/
theorem not_isCancelled_run (h : l.isCancelled = false) {moves : List Move} (hmoves : .cancel ∉ moves) :
    (l.run moves).isCancelled = false := by
  induction moves generalizing l with
  | nil => exact h
  | cons m moves ih =>
    rw [List.mem_cons, not_or] at hmoves
    exact ih ((isCancelled_step (Ne.symm hmoves.1)).trans h) hmoves.2

/-- a run that was cancelled stays so -/
theorem isCancelled_run (h : l.isCancelled = true) (moves : List Move) : (l.run moves).isCancelled = true := by
  induction moves generalizing l with
  | nil => exact h
  | cons m moves ih =>
    refine ih ?_
    by_cases hm : m = .cancel
    · subst hm
      rcases cancel_cases l with hcancelled | hsame
      · exact hcancelled
      · exact (congrArg Loop.isCancelled hsame).trans h
    · exact (isCancelled_step hm).trans h

/-- a loop that was stopped stays so -/
theorem halted_run (h : l.phase = .halted f) (moves : List Move) : (l.run moves).phase = .halted f := by
  induction moves generalizing l with
  | nil => exact h
  | cons m moves ih =>
    refine ih ?_
    cases m with
    | elapse now => exact h
    | turn answer => simp [step, turn, h]
    | tidied i =>
      rw [step]
      rcases tidied_cases i l with hsame | ⟨-, htidied⟩
      · rwa [hsame]
      · rwa [htidied]
    | cancel => simp [step, cancel, h]

/-- **A run that is cancelled before it is over** finds nothing, and asks all who are left to stop -/
theorem cancelled_of_cancel (h : l.Inv) (hopen : ∀ r, l.phase ≠ .finished r) (moves : List Move)
    (hover : (l.run (.cancel :: moves)).phase = .finished r) :
    r = .error .cancelled ∧ ∀ t ∈ (l.run (.cancel :: moves)).tasks, t.IsStopped := by
  obtain ⟨hstopped, hnone, -⟩ := of_finished (inv_run h (.cancel :: moves)) hover
  refine ⟨hnone (isCancelled_run (l := l.cancel) ?_ moves), hstopped⟩
  cases hphase : l.phase with
  | watching => simp [cancel, hphase, rouse_isCancelled]
  | clearing f => simp [cancel, hphase]
  | finished r => exact absurd hphase (hopen r)
  | halted f =>
    -- a loop that was stopped never comes to its end
    have hhalted := halted_run hphase (.cancel :: moves)
    rw [hover] at hhalted
    cases hhalted

end Loop

/-! ## Runs of checkers -/

theorem gather_of_le {t : Rat} (h : es ≠ []) (ht : t ≤ lookTime es) :
    gather (some t) es = ⟨es.map (Entrant.statusAt t), ⟨traceUntil t es, .error .cancelled⟩⟩ := by
  have hlate : ¬ (es.isEmpty || lookTime es < t) = true := by simpa [h] using ht
  simp only [gather, if_neg hlate]

theorem gather_of_lt {t : Rat} (ht : es = [] ∨ lookTime es < t) : gather (some t) es = gather none es := by
  have hlate : (es.isEmpty || lookTime es < t) = true := by simpa using ht
  simp only [gather, if_pos hlate]

/-- **By the clock, the loop ends as the run does**: with the same statuses, and with what the run returns -/
theorem gone_gather (hstays : ∀ e ∈ es, e.Stays) (c : Option Rat) :
    ∃ now isCancelled, (Loop.start es).run (Loop.byClock c es) = Loop.gone es now isCancelled (gather c es).act.result ∧
      (gather c es).statuses = es.map (Entrant.statusAt now) := by
  by_cases h : es = []
  · subst h
    have hgather : gather c [] = ⟨[], settle [] (lookTime [])⟩ := by cases c <;> rfl
    refine ⟨0, false, ?_, by rw [hgather]; rfl⟩
    rw [hgather]
    exact Loop.run_gone [] 0 false (.ok []) 0 _
  · cases c with
    | none => exact ⟨_, _, Loop.run_byClock_of_lt hstays h (by simp), rfl⟩
    | some t =>
      by_cases ht : t ≤ lookTime es
      · rw [gather_of_le h ht]
        exact ⟨_, _, Loop.run_byClock_of_le hstays h ht, rfl⟩
      · rw [gather_of_lt (.inr (not_le.1 ht))]
        exact ⟨_, _, Loop.run_byClock_of_lt hstays h (by simpa using ht), rfl⟩

/-- who is left when a run of entrants is over, by when it is cancelled -/
structure Contained (es : List Entrant) (run : Option Rat → Result) : Prop where
  /-- in whatever order things happen and however checkers clear up, nobody is left when a run that is not cancelled is over -/
  nobody : ∀ moves r, .cancel ∉ moves → ((Loop.start es).run moves).phase = .finished r →
    ((Loop.start es).run moves).tasks.map Task.entrant = es ∧
      ∀ t ∈ ((Loop.start es).run moves).tasks, ∃ s, t.stage = .ended s
  /-- nor when it has seen a failure, whether it is cancelled then or not -/
  cleared : ∀ before after f r, ((Loop.start es).run before).phase = .clearing f →
    ((Loop.start es).run (before ++ after)).phase = .finished r →
      ∀ t ∈ ((Loop.start es).run (before ++ after)).tasks, ∃ s, t.stage = .ended s
  /-- a run that is cancelled before it is over finds nothing, and has asked everybody to stop who has not ended -/
  asked : ∀ before after r, (∀ r, ((Loop.start es).run before).phase ≠ .finished r) →
    ((Loop.start es).run (before ++ .cancel :: after)).phase = .finished r →
      r = .error .cancelled ∧ ∀ t ∈ ((Loop.start es).run (before ++ .cancel :: after)).tasks, t.IsStopped
  /-- when its end is told, nobody is left, if all who are asked to stop end as soon as they are resumed -/
  told : ∀ moves r, .turn none ∉ moves → ((Loop.start es).run moves).phase = .finished r →
    ((Loop.start es).run moves).isTold = true → ∀ t ∈ ((Loop.start es).run moves).tasks, ∃ s, t.stage = .ended s
  /-- by the clock, the end is told; the run has the statuses of that end, and fails as it does -/
  clock : ∀ c, ((Loop.start es).run (Loop.byClock c es)).isTold = true ∧
    ((Loop.start es).run (Loop.byClock c es)).tasks.map Task.stage = (run c).statuses.map Stage.ended ∧
      ∃ r, ((Loop.start es).run (Loop.byClock c es)).phase = .finished r ∧
        ∀ f, r = .error f → (run c).act.result = .error f
  /-- a run that is cancelled no later than it looks cancels who is not due yet, and finds nothing -/
  early : ∀ c, es ≠ [] → c ≤ lookTime es →
    (run (some c)).statuses = es.map (fun e => if c < e.due then .cancelled else e.own) ∧
      (run (some c)).act.result = .error .cancelled
  /-- a run that is over cannot be cancelled -/
  late : ∀ c, es = [] ∨ lookTime es < c → run (some c) = run none

/-- **Runs leave nobody behind**, if joining keeps failures -/
theorem contained_of_joined {es : List Entrant} (hstays : ∀ e ∈ es, e.Stays)
    (joined : Act (List (Option (List Finding))) → Act (List Finding))
    (herror : ∀ x f, x.result = .error f → (joined x).result = .error f) :
    Contained es fun c => ⟨(gather c es).statuses, joined (gather c es).act⟩ where
  nobody moves r hmoves hover := by
    obtain ⟨-, -, hall⟩ := Loop.of_finished (Loop.inv_run (Loop.inv_start es) moves) hover
    have hcancelled : (Loop.start es).isCancelled = false := by
      unfold Loop.start
      split_ifs <;> rfl
    exact ⟨Loop.entrants_run es moves, fun t ht => isEnded_iff.1 (hall (Loop.not_isCancelled_run hcancelled hmoves) t ht)⟩
  cleared before after f r hphase hover t ht := by
    rw [Loop.run_append] at hover ht
    exact isEnded_iff.1 (Loop.isEnded_of_cleared (Loop.inv_run (Loop.inv_start es) before) hphase after hover t ht)
  asked before after r hopen hover := by
    rw [Loop.run_append] at hover ⊢
    exact Loop.cancelled_of_cancel (Loop.inv_run (Loop.inv_start es) before) hopen after hover
  told moves r hmoves hover htold t ht :=
    isEnded_iff.1 (Loop.isEnded_of_isTold (Loop.inv_run (Loop.inv_start es) moves)
      (Loop.brisk_run (Loop.brisk_start es) hmoves) htold (by simp [hover]) t ht)
  clock c := by
    obtain ⟨now, isCancelled, hgone, hstatuses⟩ := gone_gather hstays c
    rw [hgone]
    refine ⟨rfl, ?_, _, rfl, fun f hf => herror _ f hf⟩
    simp [Loop.gone, parted, hstatuses, Function.comp_def]
  early c hne hc := by
    simp only [gather_of_le hne hc]
    exact ⟨List.map_congr_left fun e _ => statusAt_eq c e, herror _ _ rfl⟩
  late c hc := by simp only [gather_of_lt hc]

/-- a checker that finds nothing, in some time -/
def patient : List (Checker Snapshot) := [timed 5 (.ok (some []))]

/-- a run that is cancelled, whose checker waits for something else when it is resumed -/
def outlived : Loop := (Loop.start (entrants patient nothingChanged)).run [.cancel, .turn none, .turn none, .turn none]

end ChangeLint.Run
