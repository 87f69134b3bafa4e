/-
The commands that an analysis runs, in their order.

What a comparison plans are the lists of changed paths, then the diffs of all paths that are looked into (`commands`).
`Planned` says which these are, from the changes and the excluded entries alone, and what each command may name. An analysis
runs its plan up to the first command that fails, and goes on to its checkers only when none does (`Runs`).

Results:
- `planned`: every plan is as it should be;
- `runs_findings`: a comparison runs its plan;
- `localRun_ofCheckout`, `requestRun_ofMergeRequest`: so do the analyses, after what comes first;
- `analyses_run`: all of it.
-/
import ChangeLint.Proofs.Analysis.Outcome
import ChangeLint.Proofs.OrderedSet

namespace ChangeLint

/-! ## Excluded paths -/

namespace Exclusion

/-- an entry that matches a path: it is the path, or it holds a slash and the path begins with it, or it holds none and is a
component of the path -/
def Matches (entry path : String) : Prop :=
  entry ≠ "" ∧ (entry = path ∨ ('/' ∈ entry.toList ∧ entry.toList <+: path.toList) ∨
    ('/' ∉ entry.toList ∧ entry ∈ Path.parts path))

variable {entry path : String} {entries paths : List String}

theorem excludes_iff : excludes path entry = true ↔ Matches entry path := by
  unfold excludes Matches
  by_cases hslash : '/' ∈ entry.toList
  · simp [hslash]
  · simp [hslash]

theorem mem_kept : path ∈ kept entries paths ↔ path ∈ paths ∧ ∀ entry ∈ entries, ¬ Matches entry path := by
  simp only [kept, isExcluded, List.mem_filter, Bool.not_eq_true', List.any_eq_false, excludes_iff]

end Exclusion

/-! ## Commands of git -/

namespace Git

/-- a command for the diff of a path -/
def IsDiffOf (path : String) (argv : List String) : Prop :=
  argv = stagedDiffCommand path ∨ ∃ r target source, argv = branchDiffCommand r target source path

/-- a command for a range of branches -/
def Ranges (range : String) (argv : List String) : Prop :=
  ∃ r target source, range = Git.range r target source ∧
    (argv = branchStatusCommand r target source ∨ ∃ path, argv = branchDiffCommand r target source path)

variable {r r' : Repository} {target target' source source' path path' range : String}

/-- no range is the word for what is staged -/
theorem range_ne_cached : Git.range r target source ≠ "--cached" := by
  intro h
  have hpoint : '.' ∈ (Git.range r target source).toList := by simp [Git.range]
  rw [h] at hpoint
  revert hpoint
  decide

theorem not_isDiffOf_stagedStatus : ¬ IsDiffOf path stagedStatusCommand := by
  rintro (h | ⟨r, target, source, h⟩)
  · simp [stagedStatusCommand, stagedDiffCommand] at h
  · simp [stagedStatusCommand, branchDiffCommand] at h

theorem not_isDiffOf_branchStatus : ¬ IsDiffOf path (branchStatusCommand r target source) := by
  rintro (h | ⟨r, target, source, h⟩)
  · simp [branchStatusCommand, stagedDiffCommand] at h
  · simp [branchStatusCommand, branchDiffCommand] at h

theorem isDiffOf_stagedDiff : IsDiffOf path (stagedDiffCommand path') ↔ path = path' := by
  constructor
  · rintro (h | ⟨r, target, source, h⟩)
    · simpa [stagedDiffCommand] using h.symm
    · simp only [stagedDiffCommand, branchDiffCommand, List.append_cancel_left_eq, List.cons.injEq] at h
      exact absurd h.2.1.symm range_ne_cached
  · rintro rfl
    exact .inl rfl

theorem isDiffOf_branchDiff : IsDiffOf path (branchDiffCommand r target source path') ↔ path = path' := by
  constructor
  · rintro (h | ⟨r', target', source', h⟩)
    · simp only [stagedDiffCommand, branchDiffCommand, List.append_cancel_left_eq, List.cons.injEq] at h
      exact absurd h.2.1 range_ne_cached
    · simp only [branchDiffCommand, List.append_cancel_left_eq, List.cons.injEq] at h
      exact h.2.2.2.1.symm
  · rintro rfl
    exact .inr ⟨r, target, source, rfl⟩

theorem not_ranges_stagedStatus : ¬ Ranges range stagedStatusCommand := by
  rintro ⟨r, target, source, -, h | ⟨path, h⟩⟩
  · simp only [stagedStatusCommand, branchStatusCommand, List.append_cancel_left_eq, List.cons.injEq] at h
    exact absurd h.2.2.2.1.symm range_ne_cached
  · simp [stagedStatusCommand, branchDiffCommand] at h

theorem not_ranges_stagedDiff : ¬ Ranges range (stagedDiffCommand path) := by
  rintro ⟨r, target, source, -, h | ⟨path, h⟩⟩
  · simp [stagedDiffCommand, branchStatusCommand] at h
  · simp only [stagedDiffCommand, branchDiffCommand, List.append_cancel_left_eq, List.cons.injEq] at h
    exact absurd h.2.1.symm range_ne_cached

theorem ranges_branchStatus : Ranges range (branchStatusCommand r target source) ↔ range = Git.range r target source := by
  constructor
  · rintro ⟨r', target', source', rfl, h | ⟨path, h⟩⟩
    · simp only [branchStatusCommand, List.append_cancel_left_eq, List.cons.injEq] at h
      exact h.2.2.2.1.symm
    · simp [branchStatusCommand, branchDiffCommand] at h
  · rintro rfl
    exact ⟨r, target, source, rfl, .inl rfl⟩

theorem ranges_branchDiff : Ranges range (branchDiffCommand r target source path) ↔ range = Git.range r target source := by
  constructor
  · rintro ⟨r', target', source', rfl, h | ⟨path', h⟩⟩
    · simp [branchStatusCommand, branchDiffCommand] at h
    · simp only [branchDiffCommand, List.append_cancel_left_eq, List.cons.injEq] at h
      exact h.2.1.symm
  · rintro rfl
    exact ⟨r, target, source, rfl, .inr ⟨path, rfl⟩⟩

end Git

/-! ## Plans that are run -/

/-- a plan that is run: its commands in order up to the first that fails, and after all of them some others -/
inductive Runs (c : Commands) (plan others : List (List String)) : List (List String) → Prop
  | failed {before after : List (List String)} {argv : List String} {f : Failure} (hplan : plan = before ++ argv :: after)
    (hbefore : ∀ a ∈ before, ∃ output, c.output a = .ok output) (hargv : c.output argv = .error f) :
    Runs c plan others (before ++ [argv])
  | finished (hplan : ∀ a ∈ plan, ∃ output, c.output a = .ok output) : Runs c plan others (plan ++ others)

variable {c : Commands} {argv : List String} {plan others calls : List (List String)}

theorem Runs.cons {output : String} (hargv : c.output argv = .ok output) (h : Runs c plan others calls) :
    Runs c (argv :: plan) others (argv :: calls) := by
  cases h with
  | @failed before after argv' f hplan hbefore hargv' =>
    have hcons : ∀ a ∈ argv :: before, ∃ output, c.output a = .ok output := by
      intro a ha
      rcases List.mem_cons.1 ha with rfl | ha
      · exact ⟨output, hargv⟩
      · exact hbefore a ha
    rw [← List.cons_append]
    exact .failed (by rw [hplan, List.cons_append]) hcons hargv'
  | finished hplan =>
    refine .finished fun a ha => ?_
    rcases List.mem_cons.1 ha with rfl | ha
    · exact ⟨output, hargv⟩
    · exact hplan a ha

/-- what is asked for up to the first failure is a plan that is run -/
theorem runs_upToFailure (c : Commands) (plan others : List (List String)) :
    Runs c plan others (c.upToFailure plan ++ if (c.firstFailure? plan).isSome then [] else others) := by
  induction plan with
  | nil => exact .finished nofun
  | cons argv plan ih =>
    rw [Commands.upToFailure, Commands.firstFailure?]
    cases hargv : c.output argv with
    | error f => exact @Runs.failed _ _ _ [] plan argv f rfl nofun hargv
    | ok output => exact ih.cons hargv

namespace Analysis

variable (c : Commands) (r : Repository) (k : Comparison) (excludes : List String)

/-- what holds of the plan of a comparison -/
structure Planned : Prop where
  /-- first the lists of changed paths, of which the source of the changes tells, then path by path the diffs: of a path
  what is staged, or what the branch has changed and, if that is nothing to be seen, what is staged -/
  order : commands c r k excludes =
    (if k.diffSource = .staged ∨ k.diffSource = .combined then [Git.stagedStatusCommand] else []) ++
      (if k.diffSource = .branch ∨ k.diffSource = .combined then [Git.branchStatusCommand r k.target k.source] else []) ++
      (paths c r k excludes).flatMap fun path =>
        if k.diffSource = .staged then [Git.stagedDiffCommand path]
        else Git.branchDiffCommand r k.target k.source path ::
          if Text.isAllBlank (c.printed (Git.branchDiffCommand r k.target k.source path)) then [Git.stagedDiffCommand path]
          else []
  /-- paths come in the order of their code points, each once -/
  sorted : (paths c r k excludes).Pairwise (· < ·)
  /-- they are the paths with new content that no entry matches -/
  mem_paths : ∀ path, path ∈ paths c r k excludes ↔
    (∃ x ∈ changed c r k, x.diffable? = some path) ∧ ∀ entry ∈ excludes, ¬ Exclusion.Matches entry path
  /-- and no diff of another one is asked for -/
  named : ∀ argv ∈ commands c r k excludes, ∀ path, Git.IsDiffOf path argv → path ∈ paths c r k excludes
  /-- what is staged has no range -/
  staged : k.diffSource = .staged → ∀ argv ∈ commands c r k excludes, ∀ range, ¬ Git.Ranges range argv
  /-- both ends of a range are known by the name of the remote -/
  ranges : ∀ argv ∈ commands c r k excludes, ∀ range, Git.Ranges range argv →
    range = r.remote ++ k.target ++ "..." ++ r.remote ++ k.source

/-- the name of the branch that is checked out, if one is printed -/
def branch? : Option String :=
  if Text.stripped (c.printed Git.branchCommand) = "" then none else some (Text.stripped (c.printed Git.branchCommand))

variable (s : Settings) (directory : String) (m : MergeRequest) (checkers : List (Checker Snapshot))
  (requestCheckers : List (Checker MergeRequest))

/-- the commands of the analysis of the checked-out branch: the one for its name, and if there is a name the plan -/
inductive LocalRun : List (List String) → Prop
  | nameless (h : branch? c = none) : LocalRun [Git.branchCommand]
  | compared {source : String} {calls : List (List String)} (h : branch? c = some source)
    (hruns : Runs c (commands c ⟨Path.normal directory, ""⟩ ⟨s.targetBranch, source, s.diffSource⟩ s.excludePaths)
      (checkerCalls checkers
        (snapshot c ⟨Path.normal directory, ""⟩ ⟨s.targetBranch, source, s.diffSource⟩ s.excludePaths)) calls) :
    LocalRun (Git.branchCommand :: calls)

/-- the commands of the analysis of a merge request: those that its own checkers run, then the plan -/
inductive RequestRun : List (List String) → Prop
  | compared {calls : List (List String)}
    (hruns : Runs c (commands c ⟨Path.normal directory, Repository.jobRemote⟩
        ⟨m.targetBranch, m.sourceBranch, s.diffSource⟩ s.excludePaths)
      (checkerCalls checkers (snapshot c ⟨Path.normal directory, Repository.jobRemote⟩
        ⟨m.targetBranch, m.sourceBranch, s.diffSource⟩ s.excludePaths)) calls) :
    RequestRun ((Run.mergeRequestCheckers none requestCheckers m).act.calls ++ calls)

variable {c r k excludes s directory m checkers requestCheckers}

/-! ## Plans -/

theorem mem_commands : argv ∈ commands c r k excludes ↔
    argv ∈ statusCommands r k ∨ ∃ path ∈ paths c r k excludes, argv ∈ diffCommands c r k path := by
  rw [commands, List.mem_append, List.mem_flatMap]

theorem mem_statusCommands (h : argv ∈ statusCommands r k) :
    argv = Git.stagedStatusCommand ∨ argv = Git.branchStatusCommand r k.target k.source ∧ k.diffSource ≠ .staged := by
  unfold statusCommands at h
  cases hsource : k.diffSource <;> simp only [hsource, List.mem_cons, List.not_mem_nil, or_false] at h
  · exact .inl h
  · exact .inr ⟨h, by decide⟩
  · exact h.imp_right fun h => ⟨h, by decide⟩

theorem mem_diffCommands {path : String} (h : argv ∈ diffCommands c r k path) :
    argv = Git.stagedDiffCommand path ∨ argv = Git.branchDiffCommand r k.target k.source path ∧ k.diffSource ≠ .staged := by
  unfold diffCommands at h
  rw [List.mem_append] at h
  rcases h with h | h
  · split_ifs at h with hsource
    · cases h
    · exact .inr ⟨List.mem_singleton.1 h, hsource⟩
  · split_ifs at h
    · exact .inl (List.mem_singleton.1 h)
    · cases h

theorem commands_eq : commands c r k excludes =
    (if k.diffSource = .staged ∨ k.diffSource = .combined then [Git.stagedStatusCommand] else []) ++
      (if k.diffSource = .branch ∨ k.diffSource = .combined then [Git.branchStatusCommand r k.target k.source] else []) ++
      (paths c r k excludes).flatMap fun path =>
        if k.diffSource = .staged then [Git.stagedDiffCommand path]
        else Git.branchDiffCommand r k.target k.source path ::
          if Text.isAllBlank (c.printed (Git.branchDiffCommand r k.target k.source path)) then [Git.stagedDiffCommand path]
          else [] := by
  have hdiffs : ∀ path, diffCommands c r k path =
      if k.diffSource = .staged then [Git.stagedDiffCommand path]
      else Git.branchDiffCommand r k.target k.source path ::
        if Text.isAllBlank (c.printed (Git.branchDiffCommand r k.target k.source path)) then [Git.stagedDiffCommand path]
        else [] := by
    intro path
    unfold diffCommands ReadsStaged
    by_cases hstaged : k.diffSource = .staged
    · simp [hstaged]
    · simp [hstaged]
  rw [commands, funext hdiffs, List.append_left_inj, statusCommands]
  cases k.diffSource <;> rfl

theorem pairwise_diffablePaths (changes : ChangeSet) : changes.diffablePaths.Pairwise (· < ·) := by
  have h := @pairwise_orderedSet String _ (fun a b => a < b) (changes.members.filterMap FileChange.diffable?)
    (fun x y z hxy hyz => by
      simp only [decide_eq_true_eq] at hxy hyz ⊢
      exact String.lt_trans hxy hyz)
    (fun x y hne hxy => by
      simp only [decide_eq_true_eq] at hxy ⊢
      by_contra hyx
      exact hne (String.le_antisymm (String.not_lt.1 hyx) (String.not_lt.1 hxy)))
  unfold ChangeSet.diffablePaths orderedTexts
  simpa only [decide_eq_true_eq] using h

theorem mem_diffablePaths {changes : ChangeSet} {path : String} :
    path ∈ changes.diffablePaths ↔ ∃ x ∈ changes, x.diffable? = some path := by
  rw [ChangeSet.diffablePaths, orderedTexts, mem_orderedSet, List.mem_filterMap]
  rfl

/-- **A comparison plans the commands that it should**, and no others -/
theorem planned (c : Commands) (r : Repository) (k : Comparison) (excludes : List String) : Planned c r k excludes where
  order := commands_eq
  sorted := (pairwise_diffablePaths _).filter _
  mem_paths path := by rw [paths, Exclusion.mem_kept, mem_diffablePaths]
  named := by
    intro argv hargv path hdiff
    rcases mem_commands.1 hargv with hstatus | ⟨path', hpath', hcommand⟩
    · rcases mem_statusCommands hstatus with rfl | ⟨rfl, -⟩
      · exact absurd hdiff Git.not_isDiffOf_stagedStatus
      · exact absurd hdiff Git.not_isDiffOf_branchStatus
    · rcases mem_diffCommands hcommand with rfl | ⟨rfl, -⟩
      · rwa [Git.isDiffOf_stagedDiff.1 hdiff]
      · rwa [Git.isDiffOf_branchDiff.1 hdiff]
  staged := by
    intro hsource argv hargv range hrange
    rcases mem_commands.1 hargv with hstatus | ⟨path, -, hcommand⟩
    · rcases mem_statusCommands hstatus with rfl | ⟨-, hother⟩
      · exact Git.not_ranges_stagedStatus hrange
      · exact hother hsource
    · rcases mem_diffCommands hcommand with rfl | ⟨-, hother⟩
      · exact Git.not_ranges_stagedDiff hrange
      · exact hother hsource
  ranges := by
    intro argv hargv range hrange
    rcases mem_commands.1 hargv with hstatus | ⟨path, -, hcommand⟩
    · rcases mem_statusCommands hstatus with rfl | ⟨rfl, -⟩
      · exact absurd hrange Git.not_ranges_stagedStatus
      · exact Git.ranges_branchStatus.1 hrange
    · rcases mem_diffCommands hcommand with rfl | ⟨rfl, -⟩
      · exact absurd hrange Git.not_ranges_stagedDiff
      · exact Git.ranges_branchDiff.1 hrange

/-! ## Analyses -/

theorem calls_filter (diffs : List FileDiff) (fs : List Finding) : (Relevance.filter diffs fs).calls = [] := by
  cases hkept : Relevance.kept diffs fs with
  | error f =>
    have hresult : (Act.ofExcept (Relevance.kept diffs fs)).result = .error f := hkept
    rw [Relevance.filter, Act.calls_bind_of_error hresult]
    rfl
  | ok ks => exact (Relevance.filter_of_kept hkept).2

/-- **A comparison runs its plan**, and then what its checkers run -/
theorem runs_findings (hc : c.PrintsLegibly) :
    Runs c (commands c r k excludes) (checkerCalls checkers (snapshot c r k excludes))
      (findings c r k checkers excludes).calls := by
  obtain ⟨hcalls, hresult⟩ := @asks_collecting c r k excludes hc
  have hruns := runs_upToFailure c (commands c r k excludes) (checkerCalls checkers (snapshot c r k excludes))
  rw [findings_eq]
  cases hfirst : c.firstFailure? (commands c r k excludes) with
  | some f =>
    rw [hfirst] at hresult hruns
    rw [Act.calls_bind_of_error hresult, hcalls]
    simpa using hruns
  | none =>
    rw [hfirst] at hresult hruns
    rw [Act.calls_bind_of_ok hresult, Act.calls_bind_of_silent fun fs => calls_filter _ fs, hcalls]
    exact hruns

theorem result_currentBranch : (Git.currentBranch c r).result.toOption = branch? c := by
  have hlookup := @lookup_currentBranch c r
  unfold branch? Commands.printed
  generalize (Git.currentBranch c r).result = result at hlookup ⊢
  cases hlookup with
  | refused h => rw [h]; rfl
  | failed h => rw [h]; rfl
  | nameless h hraw => rw [h]; exact (if_pos hraw).symm
  | named h hraw => rw [h]; exact (if_neg hraw).symm

theorem requestRun_ofMergeRequest (hc : c.PrintsLegibly) {first : List Finding}
    (hfirst : (Run.mergeRequestCheckers none requestCheckers m).act.result = .ok first) :
    RequestRun c s directory m checkers requestCheckers
      (ofMergeRequest c s directory m checkers requestCheckers).calls := by
  unfold ofMergeRequest
  rw [Act.calls_bind_of_ok hfirst, Act.calls_note_bind, Act.calls_bind_of_silent fun _ => rfl]
  exact .compared (runs_findings hc)

section

variable [Interpreter]

theorem calls_ofCheckout_of_none (h : branch? c = none) :
    (ofCheckout c s directory checkers).calls = [Git.branchCommand] := by
  have hbranch := @result_currentBranch c ⟨Path.normal directory, ""⟩
  unfold ofCheckout
  cases hresult : (Git.currentBranch c ⟨Path.normal directory, ""⟩).result with
  | error f => rw [Act.calls_bind_of_error hresult, calls_currentBranch]
  | ok source =>
    rw [hresult, h] at hbranch
    cases hbranch

theorem calls_ofCheckout_of_some {source : String} (h : branch? c = some source) :
    (ofCheckout c s directory checkers).calls = Git.branchCommand ::
      (findings c ⟨Path.normal directory, ""⟩ ⟨s.targetBranch, source, s.diffSource⟩ checkers s.excludePaths).calls := by
  have hbranch := @result_currentBranch c ⟨Path.normal directory, ""⟩
  unfold ofCheckout
  cases hresult : (Git.currentBranch c ⟨Path.normal directory, ""⟩).result with
  | error f =>
    rw [hresult, h] at hbranch
    cases hbranch
  | ok source' =>
    rw [hresult, h] at hbranch
    obtain rfl : source' = source := Option.some.inj hbranch
    have hsilent : ∀ fs, (Act.ofExcept (issues fs) >>= fun es => Act.notes es >>= fun _ => pure fs).calls = [] := by
      intro fs
      refine (Act.calls_bind_of_silent fun es => ?_).trans rfl
      rw [Act.calls_bind_of_ok (Act.result_notes _), Act.calls_notes]
      rfl
    rw [Act.calls_bind_of_ok hresult, calls_currentBranch, Act.calls_note_bind, Act.calls_bind_of_silent hsilent]
    rfl

theorem localRun_ofCheckout (hc : c.PrintsLegibly) :
    LocalRun c s directory checkers (ofCheckout c s directory checkers).calls := by
  cases h : branch? c with
  | none =>
    rw [calls_ofCheckout_of_none h]
    exact .nameless h
  | some source =>
    rw [calls_ofCheckout_of_some h]
    exact .compared h (runs_findings hc)

/-- **Analyses run what they plan.** The analysis of the checked-out branch asks for its name and, if one is printed, runs
the plan of a comparison with the target branch; that of a merge request whose own checkers succeed runs such a plan after
them. A plan is run up to the first command that fails, and all plans are as they should be. -/
theorem analyses_run (hc : c.PrintsLegibly) :
    LocalRun c s directory checkers (ofCheckout c s directory checkers).calls ∧
      (∀ first, (Run.mergeRequestCheckers none requestCheckers m).act.result = .ok first →
        RequestRun c s directory m checkers requestCheckers
          (ofMergeRequest c s directory m checkers requestCheckers).calls) ∧
      ∀ r k excludes, Planned c r k excludes :=
  ⟨localRun_ofCheckout hc, fun _ hfirst => requestRun_ofMergeRequest hc hfirst, planned c⟩

end

/-- answers about four paths: one is staged and changed on the branch, one is removed, one is excluded, and the last one has
a diff on the branch that cannot be read -/
def refusing : Commands where
  output argv :=
    if argv = Git.branchCommand then .ok " feature\n"
    else if argv = Git.stagedStatusCommand then .ok "M\x00b\x00A\x00a\x00D\x00gone\x00M\x00old/x\x00"
    else if argv = Git.branchStatusCommand ⟨"/p", ""⟩ "main" "feature" then .ok "A\x00b\x00M\x00a\x00"
    else if argv = Git.branchDiffCommand ⟨"/p", ""⟩ "main" "feature" "a" then .ok "\n"
    else if argv = Git.branchDiffCommand ⟨"/p", ""⟩ "main" "feature" "b" then
      .error (.fault (.commandFailed argv "exit code 128" (some 128) ""))
    else .ok ""
  lines _ := .ok []

/-- settings that leave a directory out -/
def excludingOld : Settings :=
  ⟨"main", .combined, ["old"], [], "", [], [], "", false, [], "127.0.0.1", 48123, .whole 10, .normal⟩

theorem analyses_run_refusing : letI : Interpreter := .usual
    refusing.PrintsLegibly ∧
      (Run.mergeRequestCheckers none Run.unhurried Run.toMain).act.result = .ok [Run.slow, Run.fast] ∧
      (LocalRun refusing excludingOld "/p" mixed (ofCheckout refusing excludingOld "/p" mixed).calls ∧
        (∀ first, (Run.mergeRequestCheckers none Run.unhurried Run.toMain).act.result = .ok first →
          RequestRun refusing excludingOld "/p" Run.toMain mixed Run.unhurried
            (ofMergeRequest refusing excludingOld "/p" Run.toMain mixed Run.unhurried).calls) ∧
        ∀ r k excludes, Planned refusing r k excludes) ∧
      (ofCheckout refusing excludingOld "/p" mixed).calls =
        [Git.branchCommand, Git.stagedStatusCommand, Git.branchStatusCommand ⟨"/p", ""⟩ "main" "feature",
          Git.branchDiffCommand ⟨"/p", ""⟩ "main" "feature" "a", Git.stagedDiffCommand "a",
          Git.branchDiffCommand ⟨"/p", ""⟩ "main" "feature" "b"] := by
  let : Interpreter := .usual
  have hlegible : refusing.PrintsLegibly := by
    intro argv raw _ hraw
    have hprinted : ∀ raw ∈ [" feature\n", "M\x00b\x00A\x00a\x00D\x00gone\x00M\x00old/x\x00", "A\x00b\x00M\x00a\x00",
        "\n", ""], Diff.Legible raw := by decide +kernel
    apply hprinted
    simp only [refusing] at hraw
    split_ifs at hraw <;> cases hraw <;> decide
  exact ⟨hlegible, rfl, analyses_run hlegible, by decide +kernel⟩

/-- answers on a detached head: all commands succeed and print nothing -/
def silent : Commands := ⟨fun _ => .ok "", fun _ => .ok []⟩

/-- settings for what is staged -/
def staging : Settings := { excludingOld with diffSource := .staged, excludePaths := [] }

/-- On a detached head nothing is asked for but the name of the branch, though no command has failed. -/
theorem detached_asks_no_list : letI : Interpreter := .usual
    silent.PrintsLegibly ∧ (∀ argv, silent.output argv = .ok "") ∧ staging.diffSource = .staged ∧
      (ofCheckout silent staging "/p" []).calls = [Git.branchCommand] := by
  let : Interpreter := .usual
  refine ⟨fun _ _ _ hraw => ?_, fun _ => rfl, rfl, by decide +kernel⟩
  cases hraw
  exact Diff.legible_empty

end Analysis

end ChangeLint
