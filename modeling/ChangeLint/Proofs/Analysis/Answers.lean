/-
What an analysis of a comparison asks, and what it reads off the answers, as plain functions of the answers.

The commands for a comparison are those for lists of changed paths, then for each changed path that is not excluded those
for its diff; whether a second command is needed for a path depends on what the first one prints (`commands`). What the
commands print tells a set of changes (`changed`) and the diffs of their paths (`collected`).

Results:
- `asks_changes`: collecting the changes asks for the lists, and finds what they tell;
- `asks_diffs`: collecting the diffs asks path by path, and finds the diffs that are told, if these are legible;
- `asks_collecting`: both, one after the other.
-/
import ChangeLint.Analysis
import ChangeLint.Proofs.Command.Asked
import ChangeLint.Proofs.Diff.Legible

namespace ChangeLint

/-- a command for the diff of a path -/
def Git.IsDiffCommand (argv : List String) : Prop :=
  (∃ path, argv = stagedDiffCommand path) ∨ ∃ r target source path, argv = branchDiffCommand r target source path

/-- no diff that is printed has a hunk header with too many digits -/
def Commands.PrintsLegibly (c : Commands) : Prop :=
  ∀ argv raw, Git.IsDiffCommand argv → c.output argv = .ok raw → Diff.Legible raw

theorem Commands.PrintsLegibly.printed {c : Commands} (h : c.PrintsLegibly) {argv : List String}
    (hargv : Git.IsDiffCommand argv) : Diff.Legible (c.printed argv) := by
  rw [Commands.printed]
  cases hout : c.output argv with
  | error f => exact Diff.legible_empty
  | ok raw => exact h argv raw hargv hout

namespace Analysis

variable (c : Commands) (r : Repository) (k : Comparison) (excludes : List String)

/-! ## Questions and answers -/

/-- the commands for lists of changed paths -/
def statusCommands : List (List String) :=
  match k.diffSource with
  | .staged => [Git.stagedStatusCommand]
  | .branch => [Git.branchStatusCommand r k.target k.source]
  | .combined => [Git.stagedStatusCommand, Git.branchStatusCommand r k.target k.source]

/-- the changes that the lists tell -/
def changed : ChangeSet := Status.resolveAll ((statusCommands r k).map fun argv => Status.frame (c.printed argv))

/-- the paths that are looked into -/
def paths : List String := Exclusion.kept excludes (changed c r k).diffablePaths

/-- true when what a branch has changed in a path is not looked at, or is nothing to be seen -/
def ReadsStaged (path : String) : Prop :=
  k.diffSource = .staged ∨ Text.isAllBlank (c.printed (Git.branchDiffCommand r k.target k.source path)) = true

instance (path : String) : Decidable (ReadsStaged c r k path) := inferInstanceAs (Decidable (_ ∨ _))

/-- the commands for the diff of a path -/
def diffCommands (path : String) : List (List String) :=
  (if k.diffSource = .staged then [] else [Git.branchDiffCommand r k.target k.source path]) ++
    if ReadsStaged c r k path then [Git.stagedDiffCommand path] else []

/-- the diff of a path as it is printed -/
def diffText (path : String) : String :=
  c.printed (if ReadsStaged c r k path then Git.stagedDiffCommand path
    else Git.branchDiffCommand r k.target k.source path)

/-- the diffs of all paths that are looked into -/
def collected : List FileDiff := (paths c r k excludes).flatMap fun path => Diff.fileDiffs (diffText c r k path)

/-- what checkers look at -/
def snapshot : Snapshot := ⟨changed c r k, collected c r k excludes⟩

/-- the commands for a comparison -/
def commands : List (List String) :=
  statusCommands r k ++ (paths c r k excludes).flatMap (diffCommands c r k)

/-! ## Changes -/

variable {c r k excludes}

theorem asks_status (argv : List String) : Asks c [argv] (Git.status c argv) (Status.frame (c.printed argv)) :=
  (Asks.run c argv).map (.map (.of_silent rfl (Act.calls_notes _)) (.pure _))

theorem asks_statuses : Asks c (statusCommands r k) (statuses c r k)
    ((statusCommands r k).map fun argv => Status.frame (c.printed argv)) := by
  have hstaged := asks_status (c := c) Git.stagedStatusCommand
  have hbranch := asks_status (c := c) (Git.branchStatusCommand r k.target k.source)
  unfold statuses statusCommands
  cases k.diffSource with
  | staged =>
    simp only [reduceCtorEq, ite_false, ite_true]
    exact hstaged.map (.map (.pure _) (.map (.pure _) (.pure _)))
  | branch =>
    simp only [reduceCtorEq, ite_false, ite_true]
    exact (Asks.pure _).bind (hbranch.map (.map (.pure _) (.pure _)))
  | combined =>
    simp only [reduceCtorEq, ite_false]
    exact hstaged.bind (.bind (.pure _) (hbranch.map (.map (.pure _) (.pure _))))

/-- **The changes are those that the lists tell** -/
theorem asks_changes : Asks c (statusCommands r k) (changes c r k) (changed c r k) :=
  asks_statuses.map (.map (.of_silent rfl (Act.calls_notes _)) (.map (.of_silent rfl rfl) (.pure _)))

/-! ## Diffs -/

theorem asks_stagedDiff (path : String) : Asks c [Git.stagedDiffCommand path] (Git.stagedDiff c path)
    (Framing.frameLines (c.printed (Git.stagedDiffCommand path))) :=
  (Asks.run c _).map (.pure _)

theorem asks_framedDiff (path : String) :
    Asks c (diffCommands c r k path) (framedDiff c r k path) (Framing.frameLines (diffText c r k path)) := by
  unfold framedDiff diffCommands diffText
  by_cases hstaged : k.diffSource = .staged
  · have hreads : ReadsStaged c r k path := Or.inl hstaged
    rw [if_pos hstaged, if_pos hstaged, if_pos hreads, if_pos hreads]
    exact asks_stagedDiff path
  · rw [if_neg hstaged, if_neg hstaged, Git.branchDiff]
    refine (Asks.run c _).bind ?_
    by_cases hblank : Text.isAllBlank (c.printed (Git.branchDiffCommand r k.target k.source path)) = true
    · have hreads : ReadsStaged c r k path := Or.inr hblank
      rw [if_pos hblank, if_pos hreads, if_pos hreads]
      exact asks_stagedDiff path
    · have hreads : ¬ ReadsStaged c r k path := fun h => h.elim hstaged hblank
      rw [if_neg hblank, if_neg hreads, if_neg hreads]
      exact .pure _

theorem legible_diffText (h : c.PrintsLegibly) (path : String) : Diff.Legible (diffText c r k path) := by
  unfold diffText
  split
  · exact h.printed (Or.inl ⟨path, rfl⟩)
  · exact h.printed (Or.inr ⟨r, k.target, k.source, path, rfl⟩)

theorem asks_diff (h : c.PrintsLegibly) (path : String) :
    Asks c (diffCommands c r k path) (diff c r k path) (Diff.fileDiffs (diffText c r k path)) := by
  obtain ⟨hresult, hcalls⟩ := Diff.read_framed (legible_diffText (r := r) (k := k) h path)
  exact (asks_framedDiff path).map (.of_silent hresult hcalls)

/-- **The diffs are those that are told path by path** -/
theorem asks_diffs (h : c.PrintsLegibly) : Asks c ((paths c r k excludes).flatMap (diffCommands c r k))
    (diffs c r k excludes (changed c r k)) (collected c r k excludes) := by
  have hpaths : Asks c [] (Exclusion.apply excludes (changed c r k).diffablePaths) (paths c r k excludes) :=
    .map (.of_silent rfl (Act.calls_notes _)) (.pure _)
  rw [← List.nil_append (List.flatMap _ _), diffs]
  refine hpaths.bind ?_
  refine Asks.map (Asks.each fun path _ => asks_diff h path) ?_
  exact .pure _

/-! ## Snapshots -/

variable (c r k excludes) in
/-- what an analysis does before its checkers run -/
def collecting : Act Snapshot := do
  let changed ← changes c r k
  let ds ← diffs c r k excludes changed
  pure ⟨changed, ds⟩

/-- **What checkers look at is what the commands tell** -/
theorem asks_collecting (h : c.PrintsLegibly) :
    Asks c (commands c r k excludes) (collecting c r k excludes) (snapshot c r k excludes) :=
  asks_changes.bind ((asks_diffs h).map (.pure _))

end Analysis

end ChangeLint
