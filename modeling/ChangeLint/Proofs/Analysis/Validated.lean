/-
What can be relied on when settings have been accepted.

Settings are accepted with a pattern that can be read and tells lines and messages; the command of the linter is accepted
as it is. So the checkers of accepted settings can be made when no linter is set or its command line can be split into
words, and fail on the words otherwise. The linter reads an output when all matches in it tell a finding.

Results:
- `checkPattern_eq_ok`, `checkPattern_of_badPattern`: which patterns are accepted and how a bad one is refused;
- `validated_runs`: what accepted settings can do, and that a bad pattern is never accepted;
- `accepted_fails`: accepted settings that fail when they are used.
-/
import ChangeLint.Analysis
import ChangeLint.Interpreter.Usual
import ChangeLint.Proofs.Checker.Formatter
import ChangeLint.Proofs.Command.Words
import ChangeLint.Proofs.Settings.Constraint

namespace ChangeLint

namespace Settings

/-! ## Patterns that are accepted -/

variable [Interpreter]

/-- a text that is no pattern, or a pattern that does not tell a line and a message, and what is wrong with it -/
inductive BadPattern (text : String) : String → Prop
  | malformed {reason place} (read : Pattern.read text.toList = .error (.malformed reason place)) :
      BadPattern text ((Pattern.Refusal.malformed reason place).message text.toList)
  | groupless {p} (read : Pattern.read text.toList = .ok p) (lacks : Checker.Formatter.isUsable p = false) :
      BadPattern text "needs 'line' and 'message' groups"

variable {text reason : String}

/-- **The patterns that are accepted** are those that a linter can be made with -/
theorem checkPattern_eq_ok : checkPattern text = .ok () ↔ ∃ p, Checker.Formatter.readPattern text = .ok p := by
  unfold checkPattern Checker.Formatter.readPattern
  cases hread : Pattern.read text.toList with
  | error e => cases e <;> simp [Except.mapError, reject_eq]
  | ok p =>
    cases husable : Checker.Formatter.isUsable p with
    | false => simp [Except.mapError, demand, reject_eq, husable, throw, throwThe, MonadExceptOf.throw]
    | true => simp [Except.mapError, demand, husable, pure, Except.pure]

/-- **A bad pattern is refused** with what is wrong with it -/
theorem checkPattern_of_badPattern (h : BadPattern text reason) :
    checkPattern text = .error (.fault (.valueRejected "formatter_pattern" text reason)) := by
  unfold checkPattern
  cases h with
  | malformed hread =>
    rw [hread]
    exact (reject_eq _ _ _).trans (congrArg _ (rejection_of_canBeWritten (canBeWritten_text text) _ _))
  | groupless hread hlacks =>
    rw [hread]
    simp only [demand, hlacks, Bool.false_eq_true, if_false]
    exact (reject_eq _ _ _).trans (congrArg _ (rejection_of_canBeWritten (canBeWritten_text text) _ _))

end Settings

namespace Analysis

open Settings
open Checker (Formatter)

/-! ## What accepted settings can do -/

section

variable [Interpreter]

/-- the checkers that settings ask for, with some linters -/
def registry (s : Settings) (directory : String) (files : Files) (c : Commands) (linters : List Formatter) :
    List (Checker Snapshot) :=
  Checker.Image.checker s.imageExtensions ::
    (if s.enableDocumentation then
      [Checker.Documentation.checker ⟨Path.normal directory, files, s.documentationExtensions⟩]
    else []) ++ linters.map (·.checker c)

/-- what accepted settings can do; `p` is the pattern of their linter -/
structure Runs (s : Settings) (p : Pattern) : Prop where
  pattern : Formatter.readPattern s.formatterPattern = .ok p
  /-- without a linter the checkers can be made -/
  idle : s.formatterEnabled = false → ∀ directory files c,
    diffCheckers s directory files c = .ok (registry s directory files c [])
  /-- with a linter they can be made when its command line is closed -/
  linted : s.formatterEnabled = true → Command.Closed s.formatterCommand.toList → ∃ argv,
    Command.words s.formatterCommand = .ok argv ∧ ∀ directory files c, diffCheckers s directory files c =
      .ok (registry s directory files c [⟨argv, s.formatterExtensions, s.formatterExclude, p⟩])
  /-- and fail on its words otherwise -/
  unclosed : s.formatterEnabled = true → ¬ Command.Closed s.formatterCommand.toList → ∃ e,
    ∀ directory files c, diffCheckers s directory files c = .error (.words e)
  /-- the linter reads an output when all matches in it tell a finding -/
  reads : ∀ f : Formatter, f.pattern = p → ∀ d output, (∃ fs, f.findings d output = .ok fs) ↔
    ∀ text ∈ output, ∀ m, p.search? text.toList = some m → Formatter.Tells p m
  /-- and if its pattern is telling, when no line number in it has too many digits -/
  telling : Formatter.isTelling p = true → ∀ f : Formatter, f.pattern = p → ∀ d output,
    (∃ fs, f.findings d output = .ok fs) ↔ ∀ text ∈ output, ∀ m digits, p.search? text.toList = some m →
      p.named? m "line" = some digits → digits.length ≤ Number.digitLimit

variable {s : Settings} {p : Pattern}

theorem diffCheckers_idle (h : s.formatterEnabled = false) (directory : String) (files : Files) (c : Commands) :
    diffCheckers s directory files c = .ok (registry s directory files c []) := by
  rw [diffCheckers, h]
  rfl

theorem diffCheckers_linted (h : s.formatterEnabled = true) (hp : Formatter.readPattern s.formatterPattern = .ok p)
    (directory : String) (files : Files) (c : Commands) :
    diffCheckers s directory files c = match Command.words s.formatterCommand with
      | .ok argv => .ok (registry s directory files c [⟨argv, s.formatterExtensions, s.formatterExclude, p⟩])
      | .error e => .error (.words e) := by
  rw [diffCheckers, if_pos h, Formatter.build, Formatter.CommandLine.argv, hp]
  cases Command.words s.formatterCommand <;> rfl

theorem runs_of_readPattern (hp : Formatter.readPattern s.formatterPattern = .ok p) : Runs s p := by
  refine ⟨hp, diffCheckers_idle, ?_, ?_, ?_, ?_⟩
  · intro henabled hclosed
    obtain ⟨argv, hwords⟩ := Command.exists_words_iff.2 hclosed
    refine ⟨argv, hwords, fun directory files c => ?_⟩
    rw [diffCheckers_linted henabled hp, hwords]
  · intro henabled hopen
    cases hwords : Command.words s.formatterCommand with
    | ok argv => exact absurd (Command.exists_words_iff.1 ⟨argv, hwords⟩) hopen
    | error e =>
      refine ⟨e, fun directory files c => ?_⟩
      rw [diffCheckers_linted henabled hp, hwords]
  · rintro f rfl d output
    exact Formatter.exists_findings_iff
  · rintro htelling f rfl d output
    exact Formatter.exists_findings_iff_of_isTelling htelling

/-- **Accepted settings can be run**, but for what their command and their pattern may do: the checkers can be made when no
linter is set or its command line is closed, and the linter reads an output when all matches in it tell a finding, which
with the default pattern they do unless a line number has too many digits. A bad pattern is never accepted, and is what is
reported when all other constraints hold. -/
theorem validated_runs (value : String → Datum) :
    (∀ s, ofValues value = .ok s →
      ∃ p, Runs s p ∧ (s.formatterPattern = Formatter.defaultPattern → Formatter.isTelling p = true)) ∧
    ∀ reason, BadPattern (textOf (value "formatter_pattern")) reason →
      ofValues value = .error (match firstBroken? (constraints value) with
        | some c => rejection c.key c.value c.reason
        | none => .fault (.valueRejected "formatter_pattern" (textOf (value "formatter_pattern")) reason)) := by
  constructor
  · intro s hs
    obtain ⟨-, hpattern, rfl⟩ := ofValues_eq_ok.1 hs
    obtain ⟨p, hp⟩ := checkPattern_eq_ok.1 hpattern
    refine ⟨p, runs_of_readPattern hp, fun hdefault => ?_⟩
    exact Formatter.isTelling_defaultPattern (hdefault ▸ hp)
  · intro reason hbad
    rw [ofValues_eq_error]
    cases hbroken : firstBroken? (constraints value) with
    | some c => exact .inl ⟨c, rfl, rfl⟩
    | none => exact .inr ⟨rfl, checkPattern_of_badPattern hbad⟩

end

/-! ## Settings that run, and settings that do not -/

/-- the settings with some members -/
def settingsOf (members : List (String × Datum)) : Settings := made (valueIn members)

theorem ofValues_settingsOf [Interpreter] {members : List (String × Datum)}
    (h : ∀ c ∈ constraints (valueIn members), c.holds = true)
    (hpattern : (Formatter.readPattern (settingsOf members).formatterPattern).isOk = true) :
    ofValues (valueIn members) = .ok (settingsOf members) := by
  refine ofValues_eq_ok.2 ⟨firstBroken?_eq_none.2 h, checkPattern_eq_ok.2 ?_, rfl⟩
  cases hread : Formatter.readPattern (textOf (valueIn members "formatter_pattern")) with
  | error e => exact absurd ((congrArg Except.isOk hread).symm.trans hpattern) Bool.false_ne_true
  | ok p => exact ⟨p, rfl⟩

/-- Settings with a linter can be run, and the linter reads an output with a finding; a pattern that is not closed is
refused. -/
theorem validated_runs_linter : letI : Interpreter := .usual
    (∃ s p, ofValues (valueIn [("formatter_command", "lint --width '80'")]) = .ok s ∧ Runs s p ∧
      s.formatterEnabled = true ∧ (∃ argv, Command.words s.formatterCommand = .ok argv) ∧
      ∀ f : Formatter, f.pattern = p → ∀ d, ∃ fs, f.findings d ["a:3:1: Too long."] = .ok fs) ∧
    BadPattern "(" "missing ), unterminated subpattern at position 0" ∧
      ofValues (valueIn [("formatter_pattern", "(")]) = .error (.fault (.valueRejected "formatter_pattern" "("
        "missing ), unterminated subpattern at position 0")) := by
  let : Interpreter := .usual
  have hbad : BadPattern "(" "missing ), unterminated subpattern at position 0" := by
    have hread : Pattern.read "(".toList = .error (.malformed .unterminatedGroup (some 0)) := rfl
    exact .malformed hread
  have hlinter : ofValues (valueIn [("formatter_command", "lint --width '80'")]) =
      .ok (settingsOf [("formatter_command", "lint --width '80'")]) :=
    ofValues_settingsOf (by decide +kernel) (by decide +kernel)
  obtain ⟨p, hruns, htelling⟩ := (validated_runs _).1 _ hlinter
  have hclosed : Command.Closed (settingsOf [("formatter_command", "lint --width '80'")]).formatterCommand.toList :=
    Command.exists_words_iff.1 ⟨["lint", "--width", "80"], by decide +kernel⟩
  have hline : (Formatter.readPattern Formatter.defaultPattern).toOption.all (fun p =>
      (p.search? "a:3:1: Too long.".toList).all fun m => (p.named? m "line").all fun digits =>
        digits.length ≤ 1) = true := by decide +kernel
  refine ⟨⟨_, p, hlinter, hruns, rfl, ?_, ?_⟩, hbad, ?_⟩
  · obtain ⟨argv, hargv, -⟩ := hruns.linted rfl hclosed
    exact ⟨argv, hargv⟩
  · intro f hf d
    refine (hruns.telling (htelling rfl) f hf d _).2 ?_
    intro text htext m digits hm hdigits
    have hp : Formatter.readPattern Formatter.defaultPattern = .ok p := hruns.pattern
    cases List.mem_singleton.1 htext
    rw [hp, Except.toOption, Option.all_some, hm, Option.all_some, hdigits, Option.all_some] at hline
    exact Nat.le_trans (of_decide_eq_true hline) (by decide)
  · have hhold : ∀ c ∈ constraints (valueIn [("formatter_pattern", "(")]), c.holds = true := by decide +kernel
    have hrefused := (validated_runs (valueIn [("formatter_pattern", "(")])).2 _ hbad
    rw [firstBroken?_eq_none.2 hhold] at hrefused
    exact hrefused

/-- A command with an open quotation is accepted, and no checkers can be made; a pattern whose line is no number is accepted,
and an output that it matches cannot be read. -/
theorem accepted_fails : letI : Interpreter := .usual
    (∃ s, ofMembers [("formatter_command", "\"")] = .ok s ∧
      ∀ directory files c, diffCheckers s directory files c = .error (.words .unclosedQuote)) ∧
    ∃ s f, ofMembers [("formatter_command", "lint"), ("formatter_pattern", "(?P<line>x)(?P<message>y)")] = .ok s ∧
      Formatter.build (.text s.formatterCommand) s.formatterExtensions s.formatterExclude s.formatterPattern = .ok f ∧
      ∀ d, f.findings d ["xy"] = .error (.notANumber (.malformed "x")) := by
  let : Interpreter := .usual
  refine ⟨⟨settingsOf [("formatter_command", "\"")], ?_, ?_⟩, ?_⟩
  · exact ofValues_settingsOf (by decide +kernel) (by decide +kernel)
  · intro directory files c
    rfl
  · have hletter : (Formatter.readPattern "(?P<line>x)(?P<message>y)").toOption.any (fun p =>
        (p.search? "xy".toList).any fun m => p.named? m "line" = some ['x']) = true := by decide +kernel
    cases hp : Formatter.readPattern "(?P<line>x)(?P<message>y)" with
    | error e =>
      rw [hp] at hletter
      cases hletter
    | ok p =>
      rw [hp, Except.toOption, Option.any_some] at hletter
      obtain ⟨m, hm, hline⟩ := (Option.any_eq_true _ _).1 hletter
      refine ⟨settingsOf [("formatter_command", "lint"), ("formatter_pattern", "(?P<line>x)(?P<message>y)")],
        ⟨["lint"], [".py"], [], p⟩, ofValues_settingsOf (by decide +kernel) (by decide +kernel), ?_, ?_⟩
      · have hwords : Command.words "lint" = .ok ["lint"] := by decide +kernel
        change Formatter.build (.text "lint") [".py"] [] "(?P<line>x)(?P<message>y)" = _
        rw [Formatter.build, Formatter.CommandLine.argv, hwords, hp]
        rfl
      · intro d
        have hnumber : Formatter.lineNumber (some ['x']) = .error (.notANumber (.malformed "x")) := rfl
        have hfinding : (⟨["lint"], [".py"], [], p⟩ : Formatter).finding? d "xy" = .error (.notANumber (.malformed "x")) := by
          rw [Formatter.finding?, hm]
          simp only [of_decide_eq_true hline, hnumber, error_bind]
        rw [Formatter.findings, List.mapM_cons, hfinding]
        rfl

end Analysis

end ChangeLint
