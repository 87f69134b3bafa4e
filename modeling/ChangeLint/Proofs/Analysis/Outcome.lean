/-
What an analysis ends with: one failure and no findings, or the relevant findings of all checkers.

`Finds` lists the ends of the part that all analyses share: a command fails, and nothing is run after it; a checker fails,
after all commands; or no command and no checker fails, and the findings of all checkers, in the order of the registry, are
filtered by the diffs that were collected. `LocalEnds` and `RequestEnds` put before it what comes first: the look-up of the
checked-out branch, and the checkers of the merge request. The analysis of the checked-out branch logs what it has found, and
fails if that cannot be written out.

Results:
- `finds_findings`: the shared part ends as listed;
- `issues_cases`: findings are logged unless something of one of them cannot be written out;
- `ends_ofCheckout`, `ends_ofMergeRequest`: an analysis ends as listed;
- `analyses_end`: both;
- `brink_unlogged`: a finding on a line whose number is too long to be written out, in a diff whose headers can be read.
-/
import ChangeLint.Proofs.Analysis.Answers
import ChangeLint.Proofs.Diff.HunkHeader
import ChangeLint.Proofs.Diff.Parse
import ChangeLint.Proofs.Finding.Relevance
import ChangeLint.Proofs.Json.Refusal
import ChangeLint.Proofs.Run.Outcome
import ChangeLint.Proofs.Written

namespace ChangeLint.Analysis

open Run (Ends Entrant Named Returning entrants)

/-! ## Ends -/

section

variable (c : Commands) (s : Settings) (directory : String) (m : MergeRequest) (r : Repository) (k : Comparison)
  (checkers : List (Checker Snapshot)) (requestCheckers : List (Checker MergeRequest)) (excludes : List String)

/-- the commands that the checkers run themselves -/
def checkerCalls (w : Snapshot) : List (List String) := (Run.diffCheckers none checkers w).act.calls

/-- the commands and the end of the analysis of a comparison -/
inductive Finds : List (List String) → Except Failure (List Finding) → Prop
  | commandFailed {f : Failure} (h : c.firstFailure? (commands c r k excludes) = some f) :
    Finds (c.upToFailure (commands c r k excludes)) (.error f)
  | checkerFailed {statuses : List Run.Status} {f : Failure} (h : c.firstFailure? (commands c r k excludes) = none)
    (hrun : Ends (entrants checkers (snapshot c r k excludes)) statuses (.error f)) :
    Finds (commands c r k excludes ++ checkerCalls checkers (snapshot c r k excludes)) (.error f)
  | found {lists : List (List Finding)} (h : c.firstFailure? (commands c r k excludes) = none)
    (hrun : (entrants checkers (snapshot c r k excludes)).map Entrant.ending = lists.map fun fs => .ok (some fs)) :
    Finds (commands c r k excludes ++ checkerCalls checkers (snapshot c r k excludes))
      (.ok (lists.flatten.filter fun f => Relevance.Counts (collected c r k excludes) f))

/-- the end of the look-up of the checked-out branch in a directory -/
inductive Lookup : Except Failure String → Prop
  | refused {argv : List String} {reason stderr : String} {status : Option Int}
    (h : c.output Git.branchCommand = .error (.fault (.commandFailed argv reason status stderr))) :
    Lookup (.error (.fault (.branchUnknown directory reason)))
  | failed {f : Failure} (h : c.output Git.branchCommand = .error f)
    (hf : ∀ argv reason status stderr, f ≠ .fault (.commandFailed argv reason status stderr)) : Lookup (.error f)
  | nameless {raw : String} (h : c.output Git.branchCommand = .ok raw) (hraw : Text.stripped raw = "") :
    Lookup (.error (.fault (.branchUnknown directory Fault.nothingPrinted)))
  | named {raw : String} (h : c.output Git.branchCommand = .ok raw) (hraw : Text.stripped raw ≠ "") :
    Lookup (.ok (Text.stripped raw))

/-- what is written of a finding in the log: its place and its text, and nothing of one on a merge request -/
def logged : Finding → List Datum
  | .mergeRequest _ _ _ => []
  | .file path text _ _ => [path, text]
  | .line path number _ text _ _ => [path, number, text]

/-- the commands and the end of the analysis of the checked-out branch -/
inductive LocalEnds [Interpreter] : List (List String) → Except Failure (List Finding) → Prop
  | lookupFailed {f : Failure} (h : Lookup c (Path.normal directory) (.error f)) :
    LocalEnds [Git.branchCommand] (.error f)
  | compared {source : String} {calls : List (List String)} {result : Except Failure (List Finding)}
    (h : Lookup c (Path.normal directory) (.ok source))
    (hfinds : Finds c ⟨Path.normal directory, ""⟩ ⟨s.targetBranch, source, s.diffSource⟩ checkers s.excludePaths calls
      result)
    (hlogged : ∀ fs, result = .ok fs → ∀ f ∈ fs, ∀ d ∈ logged f, CanBeWritten d) :
    LocalEnds (Git.branchCommand :: calls) result
  | unlogged {source : String} {calls : List (List String)} {fs : List Finding} {f : Finding} {d : Datum} {e : Failure}
    (h : Lookup c (Path.normal directory) (.ok source))
    (hfinds : Finds c ⟨Path.normal directory, ""⟩ ⟨s.targetBranch, source, s.diffSource⟩ checkers s.excludePaths calls
      (.ok fs))
    (hf : f ∈ fs) (hd : d ∈ logged f) (hwhy : Unwritable d e) : LocalEnds (Git.branchCommand :: calls) (.error e)

/-- the commands and the end of the analysis of a merge request -/
inductive RequestEnds : List (List String) → Except Failure (List Finding) → Prop
  | checkerFailed {statuses : List Run.Status} {f : Failure} (hrun : Ends (entrants requestCheckers m) statuses (.error f)) :
    RequestEnds (Run.mergeRequestCheckers none requestCheckers m).act.calls (.error f)
  | compared {lists : List (List Finding)} {calls : List (List String)} {result : Except Failure (List Finding)}
    (hrun : (entrants requestCheckers m).map Entrant.ending = lists.map fun fs => .ok (some fs))
    (hfinds : Finds c ⟨Path.normal directory, Repository.jobRemote⟩ ⟨m.targetBranch, m.sourceBranch, s.diffSource⟩
      checkers s.excludePaths calls result) :
    RequestEnds ((Run.mergeRequestCheckers none requestCheckers m).act.calls ++ calls)
      (result.map fun fs => lists.flatten ++ fs)

/-- checkers with texts for names that return lists or fail without stopping the loop; paths in what they find can be looked
up -/
structure Dependable (w : Snapshot) : Prop where
  named : Named checkers
  returning : Returning checkers w
  keys : ∀ e ∈ entrants checkers w, ∀ fs, e.ending = .ok (some fs) → ∀ f ∈ fs, Relevance.HasKey f

end

variable {c : Commands} {s : Settings} {directory : String} {m : MergeRequest} {r : Repository} {k : Comparison}
  {checkers : List (Checker Snapshot)} {requestCheckers : List (Checker MergeRequest)} {excludes : List String}

/-! ## Comparisons -/

/-- a run that returns findings returns the lists of its checkers -/
theorem exists_lists_of_ends {es : List Entrant} {statuses : List Run.Status} {fs : List Finding}
    (h : Ends es statuses (.ok fs)) :
    ∃ lists : List (List Finding), fs = lists.flatten ∧ es.map Entrant.ending = lists.map fun l => .ok (some l) := by
  cases h with
  | found hlists => exact ⟨_, rfl, hlists⟩

theorem findings_eq : findings c r k checkers excludes = collecting c r k excludes >>= fun w =>
    (Run.diffCheckers none checkers w).act >>= Relevance.filter w.diffs := by
  simp only [findings, collecting, bind_assoc, pure_bind]

theorem hasKey_of_dependable {w : Snapshot} {lists : List (List Finding)} (h : Dependable checkers w)
    (hlists : (entrants checkers w).map Entrant.ending = lists.map fun fs => .ok (some fs)) :
    ∀ f ∈ lists.flatten, Relevance.HasKey f := by
  intro f hf
  obtain ⟨fs, hfs, hf⟩ := List.mem_flatten.1 hf
  obtain ⟨e, he, hend⟩ : ∃ e ∈ entrants checkers w, e.ending = .ok (some fs) :=
    List.mem_map.1 (hlists ▸ List.mem_map_of_mem hfs)
  exact h.keys e he fs hend f hf

/-- **The analysis of a comparison fails with the first failure or finds what counts** -/
theorem finds_findings (hc : c.PrintsLegibly) (hcheckers : Dependable checkers (snapshot c r k excludes)) :
    Finds c r k checkers excludes (findings c r k checkers excludes).calls (findings c r k checkers excludes).result := by
  obtain ⟨hcalls, hresult⟩ := @asks_collecting c r k excludes hc
  rw [findings_eq]
  cases hfirst : c.firstFailure? (commands c r k excludes) with
  | some f =>
    rw [hfirst] at hresult
    rw [Act.calls_bind_of_error hresult, Act.result_bind_of_error hresult, hcalls]
    exact .commandFailed hfirst
  | none =>
    rw [hfirst] at hresult
    rw [Act.calls_bind_of_ok hresult, Act.result_bind_of_ok hresult, hcalls, Commands.upToFailure_eq_self hfirst]
    have hends := Run.ends_diffCheckers hcheckers.named hcheckers.returning
    cases hrun : (Run.diffCheckers none checkers (snapshot c r k excludes)).act.result with
    | error f =>
      rw [hrun] at hends
      rw [Act.calls_bind_of_error hrun, Act.result_bind_of_error hrun]
      exact .checkerFailed hfirst hends
    | ok fs =>
      rw [hrun] at hends
      obtain ⟨lists, rfl, hlists⟩ := exists_lists_of_ends hends
      obtain ⟨hkept, hsilent⟩ := @Relevance.filter_eq (snapshot c r k excludes).diffs _
        (hasKey_of_dependable hcheckers hlists)
      rw [Act.calls_bind_of_ok hrun, Act.result_bind_of_ok hrun, hkept, hsilent, List.append_nil]
      exact .found hfirst hlists

/-! ## Analyses -/

theorem calls_currentBranch : (Git.currentBranch c r).calls = [Git.branchCommand] := by
  unfold Git.currentBranch
  rw [Act.calls_bind_of_silent fun output => by dsimp only; split <;> rfl]
  unfold Commands.run Act.handle
  cases c.output Git.branchCommand <;> rfl

theorem lookup_currentBranch : Lookup c r.directory (Git.currentBranch c r).result := by
  unfold Git.currentBranch Commands.run Act.handle
  cases h : c.output Git.branchCommand with
  | error f =>
    rw [Act.result_bind_of_error rfl]
    by_cases hf : ∃ argv reason status stderr, f = .fault (.commandFailed argv reason status stderr)
    · obtain ⟨argv, reason, status, stderr, rfl⟩ := hf
      exact .refused h
    · have hother : Git.branchFailure r f = f := by
        unfold Git.branchFailure
        split
        · exact absurd ⟨_, _, _, _, rfl⟩ hf
        · rfl
      rw [hother]
      exact .failed h fun argv reason status stderr he => hf ⟨argv, reason, status, stderr, he⟩
  | ok raw =>
    rw [Act.result_bind_of_ok rfl]
    by_cases hraw : Text.stripped raw = ""
    · rw [if_pos hraw]
      exact .nameless h hraw
    · rw [if_neg hraw]
      exact .named h hraw

section Log

variable [Interpreter] {f : Finding} {fs : List Finding} {e : Failure}

/-- what was joined is written out -/
theorem canBeWritten_ofSigns (ss : List Text.Sign) : CanBeWritten (Datum.ofSigns ss) := by
  refine canBeWritten_of_shallow ?_ (Json.hasLongInt_ofSigns ss)
  unfold Datum.ofSigns
  split <;> exact Nat.zero_le _

theorem written_of_canBeWritten {d : Datum} (h : CanBeWritten d) : Finding.written d = .ok (.ofSigns d.signs) :=
  Finding.written_eq_ok_iff.2 ⟨h, rfl⟩

/-- a finding at a place that is written out is logged unless its text cannot be written out -/
theorem issueLine_of_location {d : Datum} (hf : f.isMergeRequest = false) (hplace : f.location = .ok d) (hd : CanBeWritten d) :
    (∃ line, issueLine f = .ok line) ∧ CanBeWritten f.text ∨ ∃ e, Unwritable f.text e ∧ issueLine f = .error e := by
  rw [issueLine, hplace, ok_bind, written_of_canBeWritten hd, ok_bind]
  · rcases canBeWritten_or_unwritable f.text with htext | ⟨e, he⟩
    · rw [written_of_canBeWritten htext]
      exact .inl ⟨⟨_, rfl⟩, htext⟩
    · rw [Finding.written_eq_error_iff.2 he]
      exact .inr ⟨e, he, rfl⟩
  · rintro text source severity rfl
    cases hf

/-- **A finding is logged** unless something of it cannot be written out -/
theorem issueLine_cases (f : Finding) : (∃ line, issueLine f = .ok line) ∧ (∀ d ∈ logged f, CanBeWritten d) ∨
    ∃ d ∈ logged f, ∃ e, Unwritable d e ∧ issueLine f = .error e := by
  cases f with
  | mergeRequest text source severity => exact .inl ⟨⟨none, rfl⟩, by simp [logged]⟩
  | file path text source severity =>
    rcases canBeWritten_or_unwritable path with hpath | ⟨e, he⟩
    · rcases issueLine_of_location (f := .file path text source severity) rfl rfl hpath with ⟨hline, ht⟩ | ⟨e, he, hline⟩
      · exact .inl ⟨hline, by simpa [logged, hpath, Finding.text] using ht⟩
      · exact .inr ⟨text, by simp [logged], e, he, hline⟩
    · refine .inr ⟨path, by simp [logged], e, he, ?_⟩
      simp [issueLine, Finding.location, Finding.written_eq_error_iff.2 he]
  | line path number kind text source severity =>
    rcases canBeWritten_or_unwritable path with hpath | ⟨e, he⟩
    · rcases canBeWritten_or_unwritable number with hnumber | ⟨e, he⟩
      · have hplace : (Finding.line path number kind text source severity).location =
            .ok (.ofSigns ((Datum.ofSigns path.signs).signs ++ Text.signs [':'] ++ (Datum.ofSigns number.signs).signs)) := by
          rw [Finding.location, written_of_canBeWritten hpath, written_of_canBeWritten hnumber]
          rfl
        rcases issueLine_of_location rfl hplace (canBeWritten_ofSigns _) with ⟨hline, ht⟩ | ⟨e, he, hline⟩
        · exact .inl ⟨hline, by simpa [logged, hpath, hnumber, Finding.text] using ht⟩
        · exact .inr ⟨text, by simp [logged], e, he, hline⟩
      · refine .inr ⟨number, by simp [logged], e, he, ?_⟩
        simp [issueLine, Finding.location, written_of_canBeWritten hpath, Finding.written_eq_error_iff.2 he]
    · refine .inr ⟨path, by simp [logged], e, he, ?_⟩
      simp [issueLine, Finding.location, Finding.written_eq_error_iff.2 he]

/-- **Findings are logged** unless something of one of them cannot be written out -/
theorem issues_cases (fs : List Finding) :
    (∃ entries, issues fs = .ok entries) ∧ (∀ f ∈ fs, ∀ d ∈ logged f, CanBeWritten d) ∨
      ∃ f ∈ fs, ∃ d ∈ logged f, ∃ e, Unwritable d e ∧ issues fs = .error e := by
  by_cases hempty : fs = []
  · subst hempty
    exact .inl ⟨⟨[], rfl⟩, by simp⟩
  have hissues : issues fs =
      (fs.mapM issueLine).map fun ls => [⟨.info, "\n".intercalate ("Found issues:" :: ls.filterMap id)⟩] := by
    rw [issues, if_neg (by simpa using hempty)]
  rcases forall_or_exists_first (fun f => ∃ line, issueLine f = .ok line) fs with
    hall | ⟨before, f, after, hfs, hbefore, hf⟩
  · left
    constructor
    · rw [hissues, exists_map_eq_ok]
      exact exists_mapM_eq_ok.2 hall
    · intro f hf
      rcases issueLine_cases f with ⟨-, hwritten⟩ | ⟨d, -, e, -, he⟩
      · exact hwritten
      · obtain ⟨line, hline⟩ := hall f hf
        rw [he] at hline
        cases hline
  · right
    rcases issueLine_cases f with ⟨hline, -⟩ | ⟨d, hd, e, he, hline⟩
    · exact absurd hline hf
    · exact ⟨f, by rw [hfs]; simp, d, hd, e, he, by rw [hissues, hfs, mapM_eq_error hbefore hline]; rfl⟩

end Log

/-- **The analysis of the checked-out branch** fails as the look-up of the branch does, or ends as a comparison that is
logged -/
theorem ends_ofCheckout [Interpreter] (hc : c.PrintsLegibly) (hcheckers : ∀ w, Dependable checkers w) :
    LocalEnds c s directory checkers (ofCheckout c s directory checkers).calls (ofCheckout c s directory checkers).result := by
  have hlookup := @lookup_currentBranch c ⟨Path.normal directory, ""⟩
  have hcalls := @calls_currentBranch c ⟨Path.normal directory, ""⟩
  unfold ofCheckout
  cases hbranch : (Git.currentBranch c ⟨Path.normal directory, ""⟩).result with
  | error f =>
    rw [hbranch] at hlookup
    rw [Act.calls_bind_of_error hbranch, Act.result_bind_of_error hbranch, hcalls]
    exact .lookupFailed hlookup
  | ok source =>
    rw [hbranch] at hlookup
    rw [Act.calls_bind_of_ok hbranch, Act.result_bind_of_ok hbranch, hcalls, Act.calls_note_bind, Act.result_note_bind]
    have hfinds := @finds_findings c ⟨Path.normal directory, ""⟩ ⟨s.targetBranch, source, s.diffSource⟩ checkers
      s.excludePaths hc (hcheckers _)
    cases hfound : (findings c ⟨Path.normal directory, ""⟩ ⟨s.targetBranch, source, s.diffSource⟩ checkers
        s.excludePaths).result with
    | error f =>
      rw [hfound] at hfinds
      rw [Act.calls_bind_of_error hfound, Act.result_bind_of_error hfound]
      exact .compared hlookup hfinds nofun
    | ok fs =>
      rw [hfound] at hfinds
      rw [Act.calls_bind_of_ok hfound, Act.result_bind_of_ok hfound]
      rcases issues_cases fs with ⟨⟨entries, hentries⟩, hwritten⟩ | ⟨f, hf, d, hd, e, he, herror⟩
      · -- what is logged of the findings changes neither them nor the commands
        have hcalls : (Act.notes entries >>= fun _ => (pure fs : Act (List Finding))).calls = [] :=
          (Act.calls_bind_of_ok (Act.result_notes _) _).trans (by rw [Act.calls_notes]; rfl)
        rw [Act.ofExcept_bind_of_ok hentries, hcalls, List.append_nil]
        refine .compared hlookup hfinds fun gs hgs => ?_
        obtain rfl : fs = gs := Except.ok.inj hgs
        exact hwritten
      · have hcalls : (Act.fail e : Act (List Finding)).calls = [] := rfl
        rw [Act.ofExcept_bind_of_error herror, Act.result_fail, hcalls, List.append_nil]
        exact .unlogged hlookup hfinds hf hd he

/-- **The analysis of a merge request** fails as a checker of the request does, or adds to its findings those of a
comparison -/
theorem ends_ofMergeRequest (hc : c.PrintsLegibly) (hcheckers : ∀ w, Dependable checkers w)
    (hrequest : Returning requestCheckers m) :
    RequestEnds c s directory m checkers requestCheckers
      (ofMergeRequest c s directory m checkers requestCheckers).calls
      (ofMergeRequest c s directory m checkers requestCheckers).result := by
  have hends := Run.ends_mergeRequestCheckers hrequest
  unfold ofMergeRequest
  cases hrun : (Run.mergeRequestCheckers none requestCheckers m).act.result with
  | error f =>
    rw [hrun] at hends
    rw [Act.calls_bind_of_error hrun, Act.result_bind_of_error hrun]
    exact .checkerFailed hends
  | ok first =>
    rw [hrun] at hends
    obtain ⟨lists, rfl, hlists⟩ := exists_lists_of_ends hends
    rw [Act.calls_bind_of_ok hrun, Act.result_bind_of_ok hrun, Act.calls_note_bind, Act.result_note_bind,
      Act.calls_bind_of_silent fun _ => rfl, Act.result_bind_eq_map fun _ => rfl]
    exact .compared hlists (finds_findings hc (hcheckers _))

/-- a diff that shows lines 3 and 4 of a file -/
def shownDiff : String := "diff --git a/a b/a\n@@ -3 +3,2 @@\n-x\n+y\n+z\n"

/-- answers on a branch that has changed one file, whose diff is staged -/
def answering : Commands where
  output argv :=
    if argv = Git.branchCommand then .ok "feature\n"
    else if argv = Git.branchStatusCommand ⟨"/p", ""⟩ "main" "feature" then .ok "M\x00a\x00"
    else if argv = Git.branchStatusCommand ⟨"/p", Repository.jobRemote⟩ "main" "feature" then .ok "M\x00a\x00"
    else if argv = Git.stagedDiffCommand "a" then .ok shownDiff
    else .ok ""
  lines _ := .ok []

def nowhere : Source := ⟨.text "T", .text "D"⟩

/-- findings on a file, on a line that is shown, as a number and as a text, and on one that is not -/
def mixed : List (Checker Snapshot) :=
  [Run.timed 2 (.ok (some [.file (.text "b") (.text "whole") nowhere .error,
      .line (.text "a") (.int 4) .added (.text "shown") nowhere .error])),
    Run.timed 1 (.ok (some [.line (.text "a") (.int 9) .added (.text "hidden") nowhere .error,
      .line (.text "a") (.text " 3 ") .added (.text "shown") nowhere .warning]))]

def mixedSettings : Settings :=
  ⟨"main", .combined, [], [], "", [], [], "", false, [], "127.0.0.1", 48123, .whole 10, .normal⟩

/-- a changed file -/
def brinkTop : Diff.Top := ⟨.modified ['a'], [], [], List.cons_ne_nil _ _, List.cons_ne_nil _ _, List.forall_mem_nil _⟩

/-- a line behind `n` others, and one inserted behind it -/
def brinkBlock (n : Nat) : Diff.Block := ⟨n, 1, n, 2, [], [" x".toList, "+y".toList]⟩

def brinkText (n : Nat) : String := Diff.textOf (brinkTop.lines [brinkBlock n])

theorem safe_brink (n : Nat) : ∀ l ∈ brinkTop.lines [brinkBlock n], Framing.Safe l := by
  have hlines : brinkTop.lines [brinkBlock n] = "diff --git a/a b/a".toList :: "--- a/a".toList :: "+++ b/a".toList ::
      (brinkBlock n).header :: [" x".toList, "+y".toList] := rfl
  have hheader : Framing.Safe (brinkBlock n).header :=
    Framing.safe_of_not_mem (c := 'd') (by decide) (Diff.not_mem_header (by decide) (by decide) List.not_mem_nil)
  rw [hlines]
  simp only [List.forall_mem_cons]
  exact ⟨by decide, by decide, by decide, hheader, by decide, by decide, by simp⟩

theorem parse_brink {n : Nat} (h : n < 10 ^ Number.digitLimit) :
    Diff.parse (Framing.frameLines (brinkText n)) = .ok [brinkTop.fileDiff [brinkBlock n]] := by
  have hwf : (brinkBlock n).WellFormed :=
    ⟨⟨by simp [brinkBlock], by simp [brinkBlock], by simp [brinkBlock, Diff.bodyPrefixes]⟩, h, h⟩
  have hparse := @Diff.parse_sections [(brinkTop, [brinkBlock n])] (by simpa using hwf)
    (by simpa [Diff.sectionLines] using safe_brink n)
  simpa [Diff.sectionLines, brinkText] using hparse

/-- the inserted line is numbered one higher than the line before it -/
theorem shows_brink (n : Nat) : Relevance.Shows [brinkTop.fileDiff [brinkBlock n]] "a" (n + 1) := by
  refine ⟨_, List.mem_singleton_self _, ?_, ⟨.added, "+y", none, some (n + 1)⟩, ?_, .inr rfl⟩
  · rw [Diff.Top.fileDiff, Diff.paths_eq]
    rfl
  · refine List.mem_append_right _ ?_
    simp [Diff.Block.diffLines, brinkBlock, Diff.numbered, Diff.numberedLine, Diff.nextNew, Diff.Section.succ]

/-- answers on a branch that has staged one file, whose diff begins in line `n` -/
def brink (n : Nat) : Commands where
  output argv :=
    if argv = Git.branchCommand then .ok "feature\n"
    else if argv = Git.stagedStatusCommand then .ok "M\x00a\x00"
    else if argv = Git.stagedDiffCommand "a" then .ok (brinkText n)
    else .ok ""
  lines _ := .ok []

def brinkSettings : Settings := { mixedSettings with diffSource := .staged }

/-- a finding on a line -/
def onLine (n : Int) : Finding := .line (.text "a") (.int n) .added (.text "t") nowhere .error

theorem legible_brink {n : Nat} (h : n < 10 ^ Number.digitLimit) : (brink n).PrintsLegibly := by
  intro argv raw _ hraw
  have htext : Diff.Legible (brinkText n) := Diff.exists_parse_iff.1 ⟨_, parse_brink h⟩
  have hprinted : ∀ raw ∈ ["feature\n", "M\x00a\x00", ""], Diff.Legible raw := by decide +kernel
  simp only [brink] at hraw
  split_ifs at hraw <;> cases hraw
  · exact hprinted _ (by decide)
  · exact hprinted _ (by decide)
  · exact htext
  · exact hprinted _ (by decide)

/-- what is found on the last line that the diff shows -/
theorem findings_brink {n : Nat} (h : n < 10 ^ Number.digitLimit) :
    (findings (brink n) ⟨"/p", ""⟩ ⟨"main", "feature", .staged⟩ [Run.timed 1 (.ok (some [onLine (n + 1)]))] []).result =
      .ok [onLine (n + 1)] := by
  have hstatus : (brink n).printed Git.stagedStatusCommand = "M\x00a\x00" := rfl
  have hpaths : paths (brink n) ⟨"/p", ""⟩ ⟨"main", "feature", .staged⟩ [] = ["a"] := by
    simp only [paths, changed, statusCommands, List.map_cons, List.map_nil, hstatus]
    decide +kernel
  have htext : diffText (brink n) ⟨"/p", ""⟩ ⟨"main", "feature", .staged⟩ "a" = brinkText n := rfl
  have hcollected : collected (brink n) ⟨"/p", ""⟩ ⟨"main", "feature", .staged⟩ [] = [brinkTop.fileDiff [brinkBlock n]] := by
    rw [collected, hpaths, List.flatMap_singleton, htext, Diff.fileDiffs, parse_brink h]
    rfl
  have hfirst : ∀ argvs, (brink n).firstFailure? argvs = none := by
    intro argvs
    induction argvs with
    | nil => rfl
    | cons argv argvs ih =>
      obtain ⟨raw, hraw⟩ : ∃ raw, (brink n).output argv = .ok raw := by
        simp only [brink]
        split_ifs <;> exact ⟨_, rfl⟩
      rw [Commands.firstFailure?, hraw]
      exact ih
  have hcounts : Relevance.Counts [brinkTop.fileDiff [brinkBlock n]] (onLine (n + 1)) := ⟨"a", rfl, n + 1, rfl, shows_brink n⟩
  have hasks := (@asks_collecting (brink n) ⟨"/p", ""⟩ ⟨"main", "feature", .staged⟩ [] (legible_brink h)).result
  rw [hfirst] at hasks
  have hrun : (Run.diffCheckers none [Run.timed 1 (.ok (some [onLine (n + 1)]))]
      (snapshot (brink n) ⟨"/p", ""⟩ ⟨"main", "feature", .staged⟩ [])).act.result = .ok [onLine (n + 1)] := rfl
  rw [findings_eq, Act.result_bind_of_ok hasks, Act.result_bind_of_ok hrun, snapshot, hcollected,
    (Relevance.filter_eq (by simp [onLine, Relevance.HasKey])).1, List.filter_singleton, decide_eq_true hcounts]
  rfl

theorem dependable_onLine (n : Int) (w : Snapshot) : Dependable [Run.timed 1 (.ok (some [onLine n]))] w where
  named := by simp [Named, Run.timed, Datum.isString]
  returning := by simp [Returning, Entrant.Stays, entrants, Run.timed, Act.ofExcept, Entrant.ending]
  keys := by simp [entrants, Run.timed, Act.ofExcept, Entrant.ending, Relevance.HasKey, onLine]

theorem ofCheckout_brink [Interpreter] {n : Nat} (h : n < 10 ^ Number.digitLimit)
    (hlong : (Datum.int (n + 1)).hasLongInt = true) :
    (ofCheckout (brink n) brinkSettings "/p" [Run.timed 1 (.ok (some [onLine (n + 1)]))]).result =
      .error (.tooLong .writing) := by
  have hnumber : Finding.written (.int (n + 1)) = .error (.tooLong .writing) :=
    Finding.written_eq_error_iff.2 (.tooLong (Interpreter.unwritten_shallow (Nat.zero_le _)) hlong)
  have hissues : issues [onLine (n + 1)] = .error (.tooLong .writing) := by
    rw [issues, if_neg (by simp), List.mapM_cons, issueLine, onLine, Finding.location, hnumber,
      written_of_canBeWritten (canBeWritten_text "a")]
    · rfl
    · rintro _ _ _ ⟨⟩
  have hbranch : (Git.currentBranch (brink n) ⟨"/p", ""⟩).result = .ok "feature" := rfl
  have hdirectory : Path.normal "/p" = "/p" := by decide +kernel
  have hfindings : (findings (brink n) ⟨"/p", ""⟩ ⟨brinkSettings.targetBranch, "feature", brinkSettings.diffSource⟩
      [Run.timed 1 (.ok (some [onLine (n + 1)]))] brinkSettings.excludePaths).result = .ok [onLine (n + 1)] :=
    findings_brink h
  rw [ofCheckout, hdirectory, Act.result_bind_of_ok hbranch, Act.result_note_bind, Act.result_bind_of_ok hfindings,
    Act.ofExcept_bind_of_error hissues]
  rfl

/-- the last number that has as many digits as one may have that is written out -/
def brinkNumber : Nat := 10 ^ Number.digitLimit - 1

theorem brinkNumber_lt : brinkNumber < 10 ^ Number.digitLimit := Nat.sub_lt (Nat.pow_pos (by decide)) Nat.one_pos

theorem hasLongInt_brinkNumber : (Datum.int (brinkNumber + 1)).hasLongInt = true := by
  have hsucc : brinkNumber + 1 = 10 ^ Number.digitLimit := Nat.sub_add_cancel (Nat.pow_pos (by decide))
  have habs : ((brinkNumber : Int) + 1).natAbs = 10 ^ Number.digitLimit := by
    rw [← hsucc]
    rfl
  refine Bool.eq_true_of_not_eq_false fun hshort => ?_
  have hlt := Number.natAbs_lt_of_isTooLong_eq_false hshort
  exact hlt.ne habs

end ChangeLint.Analysis
