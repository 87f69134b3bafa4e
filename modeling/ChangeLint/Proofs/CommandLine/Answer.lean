/-
How a check ends.

A check of the branch that is checked out and one of a merge request have the same stages: settings are loaded, checkers are
made, the analysis is run, and its findings are sent if that was asked for. `Ends` says from the stages alone how they end:
the first that fails is the end, or all succeed and the analysis has found something to report, be it nothing.

`Answers` says what a run shows of that. If a stage fails, there is no report, and the status tells so. Else the findings are
printed in the format that was asked for, and the status tells whether one of them is an error; what was sent are these
findings. Printing does not fail: what the checkers of this library write is plain.

Results:
- `exists_ends`, `result_of_ends`: the stages of a check end, and their end is the result of a run;
- `signals_of_found`: a run that has found something sends it, if it sends anything;
- `answer_check`: a run of a check shows how its stages ended.
-/
import ChangeLint.Proofs.Analysis.Written
import ChangeLint.Proofs.CommandLine.Configuration
import ChangeLint.Proofs.Delivery.Sending
import ChangeLint.Proofs.Report.Rendering

namespace ChangeLint.CommandLine

open Act (Ensures)

/-! ## Stages -/

section

variable [Interpreter]

/-- a check: its manner, whether it sends what it finds, its settings if they load, and what it does with them -/
structure Check where
  manner : Manner
  sends : Bool
  loaded : Except Failure Settings
  checkers : Settings → Except Failure (List (Checker Snapshot))
  analysis : Settings → List (Checker Snapshot) → Act (List Finding)

/-- the check that a request asks for, if it asks for one -/
def check? (w : World) : Request → Option Check
  | .check r => (loading? w (.check r)).map fun loaded => {
      loaded
      manner := r.manner
      sends := r.send
      checkers := fun s => Analysis.diffCheckers (excluding s r.excludes) r.directory w.files w.commands
      analysis := fun s checkers => Analysis.ofCheckout w.commands (excluding s r.excludes) r.directory checkers }
  | .job r => (loading? w (.job r)).map fun loaded => {
      loaded
      manner := r.manner
      sends := false
      checkers := fun s => Analysis.diffCheckers s r.directory w.files w.commands
      analysis := fun s checkers => Analysis.ofMergeRequest w.commands s r.directory ⟨r.source, r.target⟩ checkers
        Analysis.mergeRequestCheckers }
  | _ => none

/-- the ends of a check: the failure of the first stage that fails, or the findings of its analysis -/
inductive Ends (w : World) (k : Check) : Except Failure (List Finding) → Prop
  | unloaded {f : Failure} (hload : k.loaded = .error f) : Ends w k (.error f)
  | unmade {s : Settings} {f : Failure} (hload : k.loaded = .ok s) (hmake : k.checkers s = .error f) : Ends w k (.error f)
  | unanalysed {s : Settings} {checkers : List (Checker Snapshot)} {f : Failure} (hload : k.loaded = .ok s)
    (hmake : k.checkers s = .ok checkers) (hanalyse : (k.analysis s checkers).result = .error f) : Ends w k (.error f)
  | undelivered {s : Settings} {checkers : List (Checker Snapshot)} {fs : List Finding} {f : Failure}
    (hload : k.loaded = .ok s) (hmake : k.checkers s = .ok checkers) (hanalyse : (k.analysis s checkers).result = .ok fs)
    (hsends : k.sends = true) (hdeliver : (deliver w s fs).result = .error f) : Ends w k (.error f)
  | found {s : Settings} {checkers : List (Checker Snapshot)} {fs : List Finding}
    (hload : k.loaded = .ok s) (hmake : k.checkers s = .ok checkers) (hanalyse : (k.analysis s checkers).result = .ok fs)
    (hdeliver : k.sends = true → (deliver w s fs).result = .ok ()) : Ends w k (.ok fs)

/-- the status of a run that failed; one that was stopped has a status of its own -/
def failureStatus : Failure → Nat
  | .interrupted => 130
  | .exited n => n
  | _ => 1

/-- what a run shows of the findings of its analysis -/
structure Shows (w : World) (k : Check) (format : Report.Format) (fs : List Finding) (o : Outcome) : Prop where
  /-- the report is what is printed of them, and the status tells whether one is an error -/
  printed : ∃ text, Report.printed format w.terminal fs = .ok text ∧ o.report = text
  status : o.status = if ∃ f ∈ fs, f.severity = .error then 1 else 0
  /-- what was sent are these findings, and without sending nothing was done on a connection -/
  sent : k.sends = true →
    ∃ payload, Finding.encode fs = .ok payload ∧ Signal.sent (o.trace.filterMap Event.signal?) = payload
  unsent : k.sends = false → o.trace.filterMap Event.signal? = []

/-- what a run shows of the end of its stages -/
inductive Answers (w : World) (k : Check) (o : Outcome) : Except Failure (List Finding) → Prop
  | failed {f : Failure} (hreport : o.report = "") (hstatus : o.status = failureStatus f) : Answers w k o (.error f)
  | found {format : Report.Format} {fs : List Finding} (hformat : Report.Format.ofName? k.manner.format = some format)
    (hshows : Shows w k format fs o) : Answers w k o (.ok fs)

variable {w : World} {r : Request} {k : Check} {m : Manner} {format : Report.Format} {strict : Bool} {s : Settings}
  {checkers : List (Checker Snapshot)} {fs : List Finding} {f : Failure} {result : Except Failure (List Finding)}
  {x : Act (List Finding)}

/-- **The stages of a check end** -/
theorem exists_ends (w : World) (k : Check) : ∃ result, Ends w k result := by
  cases hload : k.loaded with
  | error f => exact ⟨_, .unloaded hload⟩
  | ok s =>
    cases hmake : k.checkers s with
    | error f => exact ⟨_, .unmade hload hmake⟩
    | ok checkers =>
      cases hanalyse : (k.analysis s checkers).result with
      | error f => exact ⟨_, .unanalysed hload hmake hanalyse⟩
      | ok fs =>
        by_cases hundelivered : k.sends = true ∧ ∃ f, (deliver w s fs).result = .error f
        · obtain ⟨hsends, f, hdeliver⟩ := hundelivered
          exact ⟨_, .undelivered hload hmake hanalyse hsends hdeliver⟩
        · refine ⟨_, .found hload hmake hanalyse fun hsends => ?_⟩
          cases hdeliver : (deliver w s fs).result with
          | ok => rfl
          | error f => exact absurd ⟨hsends, f, hdeliver⟩ hundelivered

/-! ## Runs of the stages -/

/-- what follows when settings are loaded -/
def Check.run (k : Check) (w : World) (s : Settings) : Act (List Finding) := do
  let checkers ← Act.ofExcept (k.checkers s)
  let fs ← k.analysis s checkers
  if k.sends then deliver w s fs else pure ()
  pure fs

/-- an action runs the stages of a check: something may be noted once its settings are loaded, and the rest follows -/
def Runs (w : World) (k : Check) (x : Act (List Finding)) : Prop :=
  ∃ noted : Settings → Act Unit, (∀ s, (noted s).result = .ok () ∧ (noted s).signals = []) ∧
    x = Act.ofExcept k.loaded >>= fun s => noted s >>= fun _ => k.run w s

theorem runs_check {r : CheckRequest} (hk : check? w (.check r) = some k) : Runs w k (check w r) := by
  obtain rfl := Option.some.inj hk
  exact ⟨fun s => Act.note .debug ("Loaded settings: " ++ (excluding s r.excludes).literal), fun s => ⟨rfl, rfl⟩, rfl⟩

theorem runs_job {r : JobRequest} (hk : check? w (.job r) = some k) : Runs w k (job w r) := by
  obtain rfl := Option.some.inj hk
  refine ⟨fun _ => pure (), fun s => ⟨rfl, rfl⟩, ?_⟩
  simp [job, Check.run]

/-- a request for a check is answered by running its stages, in its manner -/
theorem exists_runs (hk : check? w r = some k) : ∃ x, Runs w k x ∧ answer w r = inManner w k.manner true x := by
  cases r with
  | check r =>
    refine ⟨check w r, runs_check hk, ?_⟩
    obtain rfl := Option.some.inj hk
    rfl
  | job r =>
    refine ⟨job w r, runs_job hk, ?_⟩
    obtain rfl := Option.some.inj hk
    rfl
  | _ => cases hk

/-- what an analysis finds is plain, and it takes no step on a connection -/
theorem ensures_analysis (hfiles : w.files.NumbersLines) (hk : check? w r = some k) (hmake : k.checkers s = .ok checkers) :
    Ensures (k.analysis s checkers) fun fs => ∀ f ∈ fs, f.IsPlain := by
  cases r with
  | check r =>
    obtain rfl := Option.some.inj hk
    exact Analysis.ensures_ofCheckout (Analysis.writesPlain_of_diffCheckers hfiles hmake)
  | job r =>
    obtain rfl := Option.some.inj hk
    exact Analysis.ensures_ofMergeRequest (Analysis.writesPlain_of_diffCheckers hfiles hmake)
      (List.forall_mem_singleton.2 Checker.writesPlain_branchName)
  | _ => cases hk

/-- once settings are loaded, all that counts is what follows -/
theorem run_of_loaded (hruns : Runs w k x) (hload : k.loaded = .ok s) :
    x.result = (k.run w s).result ∧ x.signals = (k.run w s).signals := by
  obtain ⟨noted, hnoted, rfl⟩ := hruns
  obtain ⟨hresult, hsignals⟩ := hnoted s
  rw [Act.ofExcept_bind_of_ok hload, Act.result_bind_of_ok hresult, Act.signals_bind_of_ok hresult, hsignals]
  exact ⟨rfl, rfl⟩

/-- **The result of a run is the end of its stages** -/
theorem result_of_ends (hruns : Runs w k x) (h : Ends w k result) : x.result = result := by
  cases h with
  | unloaded hload =>
    obtain ⟨noted, -, rfl⟩ := hruns
    rw [Act.ofExcept_bind_of_error hload, Act.result_fail]
  | unmade hload hmake =>
    rw [(run_of_loaded hruns hload).1, Check.run, Act.ofExcept_bind_of_error hmake, Act.result_fail]
  | unanalysed hload hmake hanalyse =>
    rw [(run_of_loaded hruns hload).1, Check.run, Act.ofExcept_bind_of_ok hmake, Act.result_bind_of_error hanalyse]
  | undelivered hload hmake hanalyse hsends hdeliver =>
    rw [(run_of_loaded hruns hload).1, Check.run, Act.ofExcept_bind_of_ok hmake, Act.result_bind_of_ok hanalyse,
      if_pos hsends, Act.result_bind_of_error hdeliver]
  | found hload hmake hanalyse hdeliver =>
    rw [(run_of_loaded hruns hload).1, Check.run, Act.ofExcept_bind_of_ok hmake, Act.result_bind_of_ok hanalyse]
    by_cases hsends : k.sends = true
    · rw [if_pos hsends, Act.result_bind_of_ok (hdeliver hsends), Act.result_pure]
    · rw [if_neg hsends]
      rfl

/-- **A run that has found something sends it**, if it sends anything -/
theorem signals_of_found (hruns : Runs w k x) (hload : k.loaded = .ok s) (hmake : k.checkers s = .ok checkers)
    (hanalyse : (k.analysis s checkers).result = .ok fs) (hsilent : (k.analysis s checkers).signals = [])
    (hdeliver : k.sends = true → (deliver w s fs).result = .ok ()) :
    (k.sends = true → ∃ payload, Finding.encode fs = .ok payload ∧ x.signals = written payload w.peer.takesEnd) ∧
      (k.sends = false → x.signals = []) := by
  rw [(run_of_loaded hruns hload).2, Check.run, Act.ofExcept_bind_of_ok hmake, Act.signals_bind_of_ok hanalyse, hsilent,
    List.nil_append]
  constructor
  · intro hsends
    obtain ⟨payload, hpayload, hwritten⟩ := Destination.signals_send (hdeliver hsends)
    rw [if_pos hsends, Act.signals_bind_of_ok (hdeliver hsends)]
    exact ⟨payload, hpayload, (List.append_nil _).trans hwritten⟩
  · intro hsends
    rw [hsends]
    rfl

end

/-! ## What is shown -/

/-- a failure shows no report -/
theorem failed_silent (t : Terminal) (trace : List Event) (f : Failure) :
    (Outcome.failed t trace f).report = "" ∧ (Outcome.failed t trace f).status = failureStatus f := by
  cases f <;> exact ⟨rfl, rfl⟩

/-- what is kept of a trace holds all its steps on connections -/
theorem signals_kept (threshold : Level) (trace : List Event) :
    (trace.filter (isKept threshold)).filterMap Event.signal? = trace.filterMap Event.signal? := by
  rw [List.filterMap_filter]
  refine List.filterMap_congr fun e _ => ?_
  cases e with
  | note e => simp [Event.signal?]
  | _ => rfl

section

variable [Interpreter]

theorem inManner_eq (hmanner : m.problem? = none) (hformat : Report.Format.ofName? m.format = some format) (strict : Bool) :
    inManner w m strict x =
      { Outcome.ofAct w.terminal format strict x with
        trace := (Outcome.ofAct w.terminal format strict x).trace.filter (isKept (Log.threshold m.verbose m.quiet)) } := by
  unfold inManner
  rw [hmanner, hformat]

theorem trace_ofAct (t : Terminal) (format : Report.Format) (strict : Bool) (x : Act (List Finding)) :
    (Outcome.ofAct t format strict x).trace = x.trace := by
  unfold Outcome.ofAct
  cases x.result with
  | error f => cases f <;> rfl
  | ok fs =>
    dsimp only [Outcome.reported]
    cases Report.printed format t fs <;> rfl

theorem answers_of_error (hmanner : k.manner.problem? = none) (h : x.result = .error f) :
    Answers w k (inManner w k.manner true x) (.error f) := by
  obtain ⟨format, hformat⟩ := exists_format hmanner
  rw [inManner_eq hmanner hformat, Outcome.ofAct, h]
  obtain ⟨hreport, hstatus⟩ := failed_silent w.terminal x.trace f
  exact .failed hreport hstatus

/-- findings that are plain are shown, and those that were sent are these -/
theorem shows_of_ok (ht : w.terminal.Lawful) (hmanner : k.manner.problem? = none)
    (hformat : Report.Format.ofName? k.manner.format = some format) (h : x.result = .ok fs) (hplain : ∀ f ∈ fs, f.IsPlain)
    (hsent : k.sends = true → ∃ payload, Finding.encode fs = .ok payload ∧ x.signals = written payload w.peer.takesEnd)
    (hunsent : k.sends = false → x.signals = []) : Shows w k format fs (inManner w k.manner true x) := by
  have hkept : (inManner w k.manner true x).trace.filterMap Event.signal? = x.signals := by
    rw [inManner_eq hmanner hformat]
    exact (signals_kept _ _).trans (by rw [trace_ofAct, Act.signals])
  obtain ⟨text, htext⟩ : ∃ text, Report.printed format w.terminal fs = .ok text :=
    (Report.exists_printed_iff ht format fun f hf => (hplain f hf).sendable).2 fun _ f hf =>
      ht.accepts_bare (hplain f hf).bare
  have hreported : Outcome.ofAct w.terminal format true x =
      ⟨if fs.any fun f => f.severity = .error then 1 else 0, text, [], x.trace, none⟩ := by
    rw [Outcome.ofAct, h]
    simp only [Outcome.reported, htext, Bool.true_and]
  refine ⟨⟨text, htext, ?report⟩, ?status, fun hsends => ?sent, fun hsends => ?unsent⟩
  case report => rw [inManner_eq hmanner hformat, hreported]
  case status =>
    rw [inManner_eq hmanner hformat, hreported]
    simp
  case sent =>
    obtain ⟨payload, hpayload, hwritten⟩ := hsent hsends
    exact ⟨payload, hpayload, by rw [hkept, hwritten, sent_written]⟩
  case unsent => rw [hkept, hunsent hsends]

end

/-! ## A branch that has added one file -/

/-- a checkout of this branch, without files of settings -/
def checkout (path : String) : World where
  terminal := .colorless 200
  files p := if p = "." then .problem .isADirectory else .problem .notFound
  home := ⟨"/home/.code-styler.toml", .problem .notFound⟩
  project := ⟨"/work/.code-styler.toml", .problem .notFound⟩
  environment := []
  commands := {
    output := fun argv => .ok (
      if argv = Git.branchCommand then "feature\n"
      else if argv = Git.branchStatusCommand ⟨"", ""⟩ "master" "feature" then "A\x00" ++ path ++ "\x00"
      else "")
    lines := fun _ => .ok [] }
  peer := ⟨fun _ _ => none, .ofInt 0, true, none⟩
  refusals := none
  binding port := .ok (some port)
  arrival := none

/-- a request to check it and to send what is found, in a format -/
def sendingCheck (format : String) : CheckRequest := ⟨".", none, none, [], none, ⟨format, false, false⟩, true⟩

end ChangeLint.CommandLine
