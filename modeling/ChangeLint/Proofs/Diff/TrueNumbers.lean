/-
True numbers.

A patch is a script between two files and hunks cut out of it. `Describes` is what its file diff has to say: header lines
without numbers, then every step that is shown, once and in order, with the number of its line in each file that has it.

Results:
- `parse_patches`: patches, one after another, are read as file diffs that describe them;
- `parse_unreadable`: but none is read if a start has more digits than a number may have (`appended_unreadable`).
-/
import ChangeLint.Proofs.Diff.Parse

namespace ChangeLint.Diff

/-! ## What is to be read -/

namespace Patch

/-- no start of a hunk has more digits than a number may have that is read -/
def Readable (p : Patch) : Prop :=
  ∀ b ∈ p.blocks, b.oldStart < 10 ^ Number.digitLimit ∧ b.newStart < 10 ^ Number.digitLimit

/-- every inserted line lies in a hunk -/
def ShowsInsertions (p : Patch) : Prop :=
  ∀ i t, p.script[i]? = some (.insert t) → ∃ h ∈ p.hunks, h.first ≤ i ∧ i < h.first + h.size

end Patch

/-- what a file diff has to say of a patch -/
structure Describes (d : FileDiff) (p : Patch) : Prop where
  /-- header lines without numbers, then the hunks with the true numbers -/
  lines : ∃ top, d.lines = top ++ p.hunks.flatMap (Hunk.diffLines p.script) ∧
    top.map (·.content) = (p.top.headerLines p.blocks).map String.ofList ∧
    ∀ l ∈ top, l.oldNumber = none ∧ l.newNumber = none
  /-- a line numbered in the old file is that line of it, behind a prefix -/
  old_true : ∀ l ∈ d.lines, ∀ n, l.oldNumber = some n →
    ∃ (i : Nat) (t : List Char) (c : Char), n = i + 1 ∧ p.old[i]? = some t ∧ l.content = String.ofList (c :: t)
  /-- a line numbered in the new file is that line of it, behind a prefix -/
  new_true : ∀ l ∈ d.lines, ∀ n, l.newNumber = some n →
    ∃ (i : Nat) (t : List Char) (c : Char), n = i + 1 ∧ p.new[i]? = some t ∧ l.content = String.ofList (c :: t)
  /-- the added lines are the inserted ones, if all of them are shown -/
  added : p.ShowsInsertions → ∀ n : Nat, d.kindOf n = .added ↔ Inserted p.script n

/-! ## What is printed -/

/-- steps are printed on one line -/
theorem break_not_mem_printed (p : Patch) {st : Step} (h : st ∈ p.script) : '\n' ∉ st.printed := by
  have hold (t : List Char) (ht : st.old? = some t) : '\n' ∉ t := by
    refine p.old_lines t ?_
    rw [← p.old_eq]
    exact List.mem_filterMap.2 ⟨st, h, ht⟩
  have hnew (t : List Char) (ht : st.new? = some t) : '\n' ∉ t := by
    refine p.new_lines t ?_
    rw [← p.new_eq]
    exact List.mem_filterMap.2 ⟨st, h, ht⟩
  cases st with
  | keep t => simpa [Step.printed] using hold t rfl
  | delete t => simpa [Step.printed] using hold t rfl
  | insert t => simpa [Step.printed] using hnew t rfl

theorem printed_blocks (p : Patch) : ∀ b ∈ p.blocks, b.Printed := by
  intro b hb
  obtain ⟨k, hk, rfl⟩ := List.mem_map.1 hb
  refine ⟨p.heading_lines k hk, ?_, ?_⟩
  · intro l hl
    obtain ⟨st, hst, rfl⟩ := List.mem_map.1 hl
    exact break_not_mem_printed p (List.mem_of_mem_drop (List.mem_of_mem_take hst))
  · intro l hl
    obtain ⟨st, -, rfl⟩ := List.mem_map.1 hl
    cases st with
    | keep t => exact ⟨' ', by decide, rfl⟩
    | delete t => exact ⟨'-', by decide, rfl⟩
    | insert t => exact ⟨'+', by decide, rfl⟩

/-- a hunk starts no later than at the last line of a file -/
theorem start_le (side : Step → Option (List Char)) (script : List Step) (h : Hunk) :
    Hunk.start ((script.take h.first).filterMap side).length ((h.steps script).filterMap side).length ≤
      (script.filterMap side).length := by
  have hlen := congrArg (fun s => (s.filterMap side).length) (script_eq script h)
  simp only [List.filterMap_append, List.length_append] at hlen
  unfold Hunk.start
  split <;> omega

/-- the starts can be read if the files are not longer than any number that can be -/
theorem readable_of_length_lt {p : Patch} (hold : p.old.length < 10 ^ Number.digitLimit)
    (hnew : p.new.length < 10 ^ Number.digitLimit) : p.Readable := by
  intro b hb
  obtain ⟨h, -, rfl⟩ := List.mem_map.1 hb
  rw [← p.old_eq] at hold
  rw [← p.new_eq] at hnew
  exact ⟨(start_le Step.old? p.script h).trans_lt hold, (start_le Step.new? p.script h).trans_lt hnew⟩

/-! ## What is read -/

theorem diffLines_blocks (p : Patch) : p.blocks.flatMap Block.diffLines = p.hunks.flatMap (Hunk.diffLines p.script) := by
  rw [Patch.blocks, List.flatMap_map]
  refine List.flatMap_congr ?_
  intro h hh
  exact diffLines_block (p.within h hh)

/-- a numbered line of a patch is that of a step -/
theorem exists_step {p : Patch} {l : DiffLine} (hl : l ∈ (p.top.fileDiff p.blocks).lines)
    (hnum : l.oldNumber ≠ none ∨ l.newNumber ≠ none) :
    ∃ st i, p.script[i]? = some st ∧ l = trueLine p.script (st, i) := by
  rcases List.mem_append.1 hl with hl | hl
  · obtain ⟨hold, hnew⟩ := numbered_none _ l hl
    exact absurd hnum (by simp [hold, hnew])
  · rw [diffLines_blocks] at hl
    obtain ⟨h, -, hl⟩ := List.mem_flatMap.1 hl
    exact exists_trueLine hl hnum

/-- an added line was inserted, whatever is shown -/
theorem inserted_of_added {p : Patch} {n : Nat} (h : (p.top.fileDiff p.blocks).kindOf n = .added) :
    Inserted p.script n := by
  rw [FileDiff.kindOf, FileDiff.kindAt] at h
  cases hline : (p.top.fileDiff p.blocks).lineAt? n with
  | none =>
    rw [hline] at h
    cases h
  | some l =>
    rw [hline] at h
    have hnum : l.newNumber = some (n : Int) := by simpa using List.find?_some hline
    obtain ⟨st, i, hi, rfl⟩ := exists_step (List.mem_of_find?_eq_some hline) (Or.inr (by simp [hnum]))
    obtain ⟨t, rfl⟩ := kind_trueLine.1 h
    obtain ⟨-, -, hn, -⟩ := newNumber_trueLine hnum
    exact ⟨i, t, hi, (Int.ofNat.inj hn).symm⟩

/-- a shown line that was inserted is added: no other line has its number -/
theorem added_of_inserted {p : Patch} (hshown : p.ShowsInsertions) {n : Nat} (h : Inserted p.script n) :
    (p.top.fileDiff p.blocks).kindOf n = .added := by
  obtain ⟨i, t, hi, rfl⟩ := h
  obtain ⟨k, hk, hfirst, hlast⟩ := hshown i t hi
  have hmem : trueLine p.script (.insert t, i) ∈ (p.top.fileDiff p.blocks).lines := by
    refine List.mem_append_right _ ?_
    rw [diffLines_blocks]
    exact List.mem_flatMap.2 ⟨k, hk, List.mem_cons_of_mem _ (List.mem_map_of_mem (mem_shown hi hfirst hlast))⟩
  cases hline : (p.top.fileDiff p.blocks).lineAt? (newNumber p.script i) with
  | none =>
    have hnot := List.find?_eq_none.1 hline _ hmem
    exact absurd (decide_eq_true rfl) hnot
  | some l =>
    -- the first line with that number is that of a step with it, and there is no other such step
    have hnum : l.newNumber = some (newNumber p.script i : Int) := by simpa using List.find?_some hline
    obtain ⟨su, j, hj, rfl⟩ := exists_step (List.mem_of_find?_eq_some hline) (Or.inr (by simp [hnum]))
    obtain ⟨u, hu, hn, -⟩ := newNumber_trueLine hnum
    have hij : i = j := newNumber_inj hi rfl hj (by simp [hu]) (Int.ofNat.inj hn)
    subst hij
    rw [hi] at hj
    cases hj
    simp [FileDiff.kindOf, FileDiff.kindAt, hline, trueLine, Step.line]

theorem describes_fileDiff (p : Patch) : Describes (p.top.fileDiff p.blocks) p where
  lines := by
    refine ⟨numbered none none (p.top.headerLines p.blocks), ?_, content_numbered _ _ _, numbered_none _⟩
    rw [Top.fileDiff, diffLines_blocks]
  old_true := by
    intro l hl n hnum
    obtain ⟨st, i, hi, rfl⟩ := exists_step hl (Or.inl (by simp [hnum]))
    obtain ⟨t, ht, rfl, c, hc⟩ := oldNumber_trueLine hnum
    refine ⟨oldNumber p.script i - 1, t, c, ?_, ?_, hc⟩
    · rw [oldNumber]
      simp
    · rw [← p.old_eq]
      exact getElem?_oldSide hi ht
  new_true := by
    intro l hl n hnum
    obtain ⟨st, i, hi, rfl⟩ := exists_step hl (Or.inr (by simp [hnum]))
    obtain ⟨t, ht, rfl, c, hc⟩ := newNumber_trueLine hnum
    refine ⟨newNumber p.script i - 1, t, c, ?_, ?_, hc⟩
    · rw [newNumber]
      simp
    · rw [← p.new_eq]
      exact getElem?_newSide hi ht
  added := fun hshown _ => ⟨inserted_of_added, added_of_inserted hshown⟩

/-! ## Starts that cannot be read -/

theorem readHunk_unreadable {b : Block}
    (h : ¬ (b.oldStart < 10 ^ Number.digitLimit ∧ b.newStart < 10 ^ Number.digitLimit)) :
    ∃ e, readHunk b.header = .error e := by
  rw [readHunk, hunkStarts?_header]
  simp only
  rcases Nat.lt_or_ge b.oldStart (10 ^ Number.digitLimit) with hold | hold
  · have hnew : 10 ^ Number.digitLimit ≤ b.newStart := Nat.not_lt.1 fun hlt => h ⟨hold, hlt⟩
    rw [Number.ofDigits_toDigits hold, Number.ofDigits_toDigits_of_le hnew]
    exact ⟨_, rfl⟩
  · rw [Number.ofDigits_toDigits_of_le hold]
    exact ⟨_, rfl⟩

theorem feed_unreadable (r : Reading) {b : Block} (h : ∃ e, readHunk b.header = .error e) :
    ∃ e, r.feed b.header = .error e := by
  obtain ⟨e, he⟩ := h
  have hsection : ¬ sectionMark.isPrefixOf b.header = true := nofun
  have hmark : hunkMark.isPrefixOf b.header = true := rfl
  have hadd : r.current.add b.header = .error e := by
    unfold Section.add
    simp only [hmark, he]
    cases r.current.inHeader <;> rfl
  refine ⟨e, ?_⟩
  rw [Reading.feed, if_neg hsection, hadd]
  rfl

/-- a run fails if one of its lines is refused in every state -/
theorem foldlM_error {ls : List (List Char)} {l : List Char} (hl : l ∈ ls) (h : ∀ r : Reading, ∃ e, r.feed l = .error e)
    (r : Reading) : ∃ e, ls.foldlM Reading.feed r = .error e := by
  induction ls generalizing r with
  | nil => cases hl
  | cons m ls ih =>
    rw [List.foldlM_cons]
    cases hm : r.feed m with
    | error e => exact ⟨e, rfl⟩
    | ok r' =>
      rcases List.mem_cons.1 hl with rfl | hl
      · obtain ⟨e, he⟩ := h r
        rw [he] at hm
        cases hm
      · exact ih hl r'

/-- **A start of too many digits spoils the whole diff** -/
theorem parse_unreadable {patches : List Patch} (hsafe : ∀ p ∈ patches, ∀ l ∈ p.lines, Framing.Safe l) {p : Patch}
    (hp : p ∈ patches) (h : ¬ p.Readable) :
    ∃ e, parse (Framing.frameLines (textOf (patches.flatMap Patch.lines))) = .error e := by
  have hlines : ∀ l ∈ patches.flatMap Patch.lines, Framing.Safe l ∧ l ≠ [] ∧ '\n' ∉ l := by
    intro l hl
    obtain ⟨q, hq, hl⟩ := List.mem_flatMap.1 hl
    exact ⟨hsafe q hq l hl, line_of_mem_lines (printed_blocks q) hl⟩
  obtain ⟨b, hb, hb'⟩ : ∃ b ∈ p.blocks,
      ¬ (b.oldStart < 10 ^ Number.digitLimit ∧ b.newStart < 10 ^ Number.digitLimit) := by
    simpa [Patch.Readable] using h
  have hmem : b.header ∈ patches.flatMap Patch.lines := by
    refine List.mem_flatMap.2 ⟨p, hp, List.mem_cons_of_mem _ (List.mem_append_right _ ?_)⟩
    exact List.mem_flatMap.2 ⟨b, hb, List.mem_cons_self⟩
  obtain ⟨e, he⟩ := foldlM_error hmem (fun r => feed_unreadable r (readHunk_unreadable hb')) .start
  refine ⟨e, ?_⟩
  rw [parse, textOf, Framing.recordsOf_frameLines (fun l hl => (hlines l hl).1) (fun l hl => (hlines l hl).2.2)
    fun l hl => (hlines l hl).2.1, ofRecords, he]
  rfl

/-! ## Patches -/

/-- **Line numbers are the true ones.** Patches, one after another, are read as one file diff each, and it describes its
patch, if the starts of all hunks can be read and framing keeps all lines. -/
theorem parse_patches (patches : List Patch) (hreadable : ∀ p ∈ patches, p.Readable)
    (hsafe : ∀ p ∈ patches, ∀ l ∈ p.lines, Framing.Safe l) :
    ∃ diffs, parse (Framing.frameLines (textOf (patches.flatMap Patch.lines))) = .ok diffs ∧
      List.Forall₂ Describes diffs patches := by
  have hlines : sectionLines (patches.map fun p => (p.top, p.blocks)) = patches.flatMap Patch.lines := by
    rw [sectionLines, List.flatMap_map]
    rfl
  have hwf : ∀ s ∈ patches.map fun p => (p.top, p.blocks), ∀ b ∈ s.2, b.WellFormed := by
    intro s hs
    obtain ⟨p, hp, rfl⟩ := List.mem_map.1 hs
    exact fun b hb => ⟨printed_blocks p b hb, (hreadable p hp b hb).1, (hreadable p hp b hb).2⟩
  have hsafe' : ∀ l ∈ sectionLines (patches.map fun p => (p.top, p.blocks)), Framing.Safe l := by
    intro l hl
    rw [hlines] at hl
    obtain ⟨p, hp, hl⟩ := List.mem_flatMap.1 hl
    exact hsafe p hp l hl
  have hparse := parse_sections hwf hsafe'
  rw [hlines] at hparse
  refine ⟨_, hparse, ?_⟩
  rw [List.map_map, List.forall₂_map_left_iff, List.forall₂_same]
  exact fun p _ => describes_fileDiff p

/-- an insertion into nothing, lines that look like markers, and an insertion at the end, each in its hunk -/
def awkwardPatch : Patch where
  top := ⟨.modified "b c".toList, ["old mode 100644".toList, "new mode 100755".toList], [], by decide, by decide,
    by decide⟩
  old := ["a".toList, "-- x".toList, "c".toList, "d".toList]
  new := ["++ y".toList, "a".toList, "b".toList, "c".toList, "d".toList, "@@".toList]
  script := [.insert "++ y".toList, .keep "a".toList, .delete "-- x".toList, .insert "b".toList, .keep "c".toList,
    .keep "d".toList, .insert "@@".toList]
  hunks := [⟨0, 1, []⟩, ⟨1, 4, " def f".toList⟩, ⟨6, 1, []⟩]
  old_eq := by decide
  new_eq := by decide
  ordered := by decide
  within := by decide
  old_lines := by decide
  new_lines := by decide
  heading_lines := by decide

/-- a file of one line, added under a name in quotes -/
def addedPatch : Patch where
  top := ⟨.added "t\tu".toList, ["new file mode 100644".toList], ["index 0000000..587be6b".toList], by decide,
    by decide, by decide⟩
  old := []
  new := ["x".toList]
  script := [.insert "x".toList]
  hunks := [⟨0, 1, []⟩]
  old_eq := by decide
  new_eq := by decide
  ordered := by decide
  within := by decide
  old_lines := by decide
  new_lines := by decide
  heading_lines := by decide

theorem parse_awkwardPatch_addedPatch :
    (∀ p ∈ [awkwardPatch, addedPatch], p.Readable) ∧
      (∀ p ∈ [awkwardPatch, addedPatch], ∀ l ∈ p.lines, Framing.Safe l) ∧
      ∃ diffs, parse (Framing.frameLines (textOf ([awkwardPatch, addedPatch].flatMap Patch.lines))) = .ok diffs ∧
        List.Forall₂ Describes diffs [awkwardPatch, addedPatch] := by
  have hlimit {n : Nat} (h : n < 10) : n < 10 ^ Number.digitLimit := h.trans_le (Nat.le_self_pow (by decide) 10)
  have hreadable : ∀ p ∈ [awkwardPatch, addedPatch], p.Readable := by
    intro p hp
    rw [List.mem_cons, List.mem_singleton] at hp
    rcases hp with rfl | rfl
    · exact readable_of_length_lt (hlimit (by decide)) (hlimit (by decide))
    · exact readable_of_length_lt (hlimit (by decide)) (hlimit (by decide))
  have hsafe : ∀ p ∈ [awkwardPatch, addedPatch], ∀ l ∈ p.lines, Framing.Safe l := by decide
  exact ⟨hreadable, hsafe, parse_patches _ hreadable hsafe⟩

theorem oldSide_keeps (n : Nat) : oldSide (List.replicate n (.keep [])) = List.replicate n [] :=
  List.filterMap_replicate_of_some rfl

theorem newSide_keeps (n : Nat) : newSide (List.replicate n (.keep [])) = List.replicate n [] :=
  List.filterMap_replicate_of_some rfl

/-- a line inserted behind `n` empty ones, which are not shown -/
def appended (n : Nat) : Patch where
  top := ⟨.modified ['f'], [], [], by decide, by decide, by decide⟩
  old := List.replicate n []
  new := List.replicate n [] ++ [['x']]
  script := List.replicate n (.keep []) ++ [.insert ['x']]
  hunks := [⟨n, 1, []⟩]
  old_eq := by
    rw [oldSide, List.filterMap_append, ← oldSide, oldSide_keeps]
    exact List.append_nil _
  new_eq := by
    rw [newSide, List.filterMap_append, ← newSide, newSide_keeps]
    rfl
  ordered := List.pairwise_singleton _ _
  within := by simp
  old_lines := by simp +contextual [List.mem_replicate]
  new_lines := by
    intro l hl
    rcases List.mem_append.1 hl with hl | hl
    · simp [(List.mem_replicate.1 hl).2]
    · simp [List.mem_singleton.1 hl]
  heading_lines := by simp

theorem blocks_appended (n : Nat) : (appended n).blocks = [⟨n, 0, n + 1, 1, [], [['+', 'x']]⟩] := by
  have hsteps : Hunk.steps (appended n).script ⟨n, 1, []⟩ = [.insert ['x']] := by
    simp [Hunk.steps, appended]
  have htake : (appended n).script.take n = List.replicate n (.keep []) := by
    simp [appended]
  have hold : (oldSide ((appended n).script.take n)).length = n := by
    rw [htake, oldSide_keeps, List.length_replicate]
  have hnew : (newSide ((appended n).script.take n)).length = n := by
    rw [htake, newSide_keeps, List.length_replicate]
  have hblocks : (appended n).blocks = [Hunk.block (appended n).script ⟨n, 1, []⟩] := rfl
  rw [hblocks, Hunk.block, hsteps, hold, hnew]
  rfl

theorem safe_appended (n : Nat) : ∀ l ∈ (appended n).lines, Framing.Safe l := by
  have hlines : (appended n).lines = "diff --git a/f b/f".toList :: "--- a/f".toList :: "+++ b/f".toList ::
      (Block.header ⟨n, 0, n + 1, 1, [], [['+', 'x']]⟩) :: ["+x".toList] := by
    rw [Patch.lines, blocks_appended]
    rfl
  intro l hl
  rw [hlines] at hl
  rcases List.mem_cons.1 hl with rfl | hl
  · decide
  rcases List.mem_cons.1 hl with rfl | hl
  · decide
  rcases List.mem_cons.1 hl with rfl | hl
  · decide
  rcases List.mem_cons.1 hl with rfl | hl
  · exact Framing.safe_of_not_mem (c := 'd') (by decide) (not_mem_header (by decide) (by decide) List.not_mem_nil)
  · rw [List.mem_singleton.1 hl]
    decide

/-- **A line behind more lines than can be counted.** Its patch is printed in five lines, but none of it is read. -/
theorem appended_unreadable :
    (∀ l ∈ (appended (10 ^ Number.digitLimit)).lines, Framing.Safe l) ∧
      ¬ ∃ diffs, parse (Framing.frameLines (textOf (appended (10 ^ Number.digitLimit)).lines)) = .ok diffs ∧
        List.Forall₂ Describes diffs [appended (10 ^ Number.digitLimit)] := by
  have hsafe : ∀ p ∈ [appended (10 ^ Number.digitLimit)], ∀ l ∈ p.lines, Framing.Safe l := by
    intro p hp
    rw [List.mem_singleton.1 hp]
    exact safe_appended _
  have hstart : ¬ (appended (10 ^ Number.digitLimit)).Readable := by
    intro h
    rw [Patch.Readable, blocks_appended] at h
    exact Nat.lt_irrefl _ (h _ List.mem_cons_self).1
  obtain ⟨e, he⟩ := parse_unreadable hsafe List.mem_cons_self hstart
  rw [List.flatMap_singleton] at he
  refine ⟨safe_appended _, ?_⟩
  rintro ⟨diffs, hdiffs, -⟩
  rw [he] at hdiffs
  cases hdiffs

end ChangeLint.Diff
