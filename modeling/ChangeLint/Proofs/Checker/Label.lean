/-
How the checkers label a line of the new file.

The formatter checker takes the kind that the diff has for the line. The documentation checker takes that of the first line
with this number on either side, which may be a line of the old file. `Crossed` says when this is another line and has
another kind: it stands before the line that is meant, and one of the two was deleted or inserted.

A lookup in a diff is a lookup among the steps that its patch shows (`find?_fileDiff`), which stand there in the order of
the script (`pairwise_shown`) and have each number once on each side.

Results:
- `labels_parsed`: both checkers label a line that is shown alike if and only if it is not crossed, and the formatter labels
  as added just the inserted ones;
- `replaced_labelled_removed`: the first line of a file that was put in place of another one is labelled as removed.
-/
import ChangeLint.Checker.Documentation
import ChangeLint.Proofs.Checker.Formatter
import ChangeLint.Proofs.Diff.TrueNumbers
import ChangeLint.Proofs.OrderedSet
import ChangeLint.Proofs.Script.Undocumented

namespace ChangeLint.Diff

open Checker (Documentation Formatter)

namespace Patch

/-- the steps that a patch shows, with their indexes -/
def shown (p : Patch) : List (Step × Nat) := p.hunks.flatMap (Hunk.shown p.script)

/-- a step is shown that gives the line of the new file with a number -/
def Shows (p : Patch) (n : Nat) : Prop :=
  ∃ st i, (st, i) ∈ p.shown ∧ st.new?.isSome ∧ newNumber p.script i = n

/-- before the line of the new file with a number, the one of the old file with this number is shown: as a deleted line, or
as a kept one while the other was inserted -/
inductive Crossed (p : Patch) (n : Nat) : Prop
  | deleted {t : List Char} {st : Step} {i j : Nat} (hj : (.delete t, j) ∈ p.shown) (hi : (st, i) ∈ p.shown)
    (hji : j < i) (hold : oldNumber p.script j = n) (hst : st.new?.isSome) (hnew : newNumber p.script i = n)
  | inserted {t u : List Char} {i j : Nat} (hj : (.keep t, j) ∈ p.shown) (hi : (.insert u, i) ∈ p.shown)
    (hji : j < i) (hold : oldNumber p.script j = n) (hnew : newNumber p.script i = n)

end Patch

variable {p : Patch} {st su : Step} {i j n : Nat}

/-! ## The steps that are shown -/

theorem getElem?_of_mem_steps (h : (st, i) ∈ p.shown) : p.script[i]? = some st := by
  obtain ⟨k, -, hmem⟩ := List.mem_flatMap.1 h
  exact getElem?_of_mem_shown hmem

/-- an index is that of one step -/
theorem eq_of_mem_steps (h : (st, i) ∈ p.shown) (h' : (su, i) ∈ p.shown) : st = su := by
  have hget := getElem?_of_mem_steps h
  rw [getElem?_of_mem_steps h'] at hget
  exact (Option.some.inj hget).symm

/-- the new file has each number once -/
theorem eq_of_newNumber (hj : (su, j) ∈ p.shown) (hsu : su.new?.isSome) (hi : (st, i) ∈ p.shown) (hst : st.new?.isSome)
    (hnum : newNumber p.script j = newNumber p.script i) : (su, j) = (st, i) := by
  obtain rfl := newNumber_inj (getElem?_of_mem_steps hj) hsu (getElem?_of_mem_steps hi) hst hnum
  rw [eq_of_mem_steps hj hi]

/-- and so has the old file -/
theorem eq_of_oldNumber (hj : (su, j) ∈ p.shown) (hsu : su.old?.isSome) (hi : (st, i) ∈ p.shown) (hst : st.old?.isSome)
    (hnum : oldNumber p.script j = oldNumber p.script i) : (su, j) = (st, i) := by
  obtain rfl := oldNumber_inj (getElem?_of_mem_steps hj) hsu (getElem?_of_mem_steps hi) hst hnum
  rw [eq_of_mem_steps hj hi]

/-- steps are shown in the order of the script -/
theorem pairwise_shown (p : Patch) : p.shown.Pairwise fun s t => decide (s.2 < t.2) = true := by
  have hin : ∀ h ∈ p.hunks, ∀ s ∈ h.shown p.script, h.first ≤ s.2 ∧ s.2 < h.first + h.size := by
    rintro h hh ⟨st, i⟩ hs
    exact (mem_shown_iff (p.within h hh)).1 ⟨st, hs⟩
  rw [Patch.shown, List.pairwise_flatMap]
  refine ⟨fun h hh => ?_, p.ordered.imp_of_mem fun {g h} hg hh hgh s hs t ht => ?_⟩
  · rw [shown_eq (p.within h hh)]
    simpa using (List.pairwise_map (f := Prod.snd)).1 (by
      rw [List.zipIdx_map_snd]
      exact List.pairwise_lt_range')
  · have hs := (hin g hg s hs).2
    have ht := (hin h hh t ht).1
    exact decide_eq_true (by omega)

/-- a lookup of a numbered line in a diff is one among the steps that are shown -/
theorem find?_fileDiff {pred : DiffLine → Bool}
    (hnone : ∀ l : DiffLine, l.oldNumber = none → l.newNumber = none → pred l = false) :
    (p.top.fileDiff p.blocks).lines.find? pred =
      (p.shown.find? fun s => pred (trueLine p.script s)).map (trueLine p.script) := by
  have htop : (numbered none none (p.top.headerLines p.blocks)).find? pred = none := by
    rw [List.find?_eq_none]
    intro l hl
    obtain ⟨hold, hnew⟩ := numbered_none _ l hl
    rw [hnone l hold hnew]
    exact Bool.false_ne_true
  rw [Top.fileDiff, List.find?_append, htop, Option.none_or, diffLines_blocks, Patch.shown]
  induction p.hunks with
  | nil => rfl
  | cons h hunks ih =>
    rw [List.flatMap_cons, List.flatMap_cons, List.find?_append, List.find?_append, ih, Hunk.diffLines,
      List.find?_cons_of_neg (by rw [hnone _ rfl rfl]; exact Bool.false_ne_true), List.find?_map, Option.map_or]
    rfl

/-! ## Lookups -/

theorem newNumber_trueLine_iff : (trueLine p.script (st, i)).newNumber = some (n : Int) ↔
    st.new?.isSome ∧ newNumber p.script i = n := by
  cases st <;> simp [trueLine, Step.line, Step.new?]

theorem oldNumber_trueLine_iff : (trueLine p.script (st, i)).oldNumber = some (n : Int) ↔
    st.old?.isSome ∧ oldNumber p.script i = n := by
  cases st <;> simp [trueLine, Step.line, Step.old?]

/-- the line of the new file with a number is found -/
theorem lineAt?_eq (h : (st, i) ∈ p.shown) (hst : st.new?.isSome) :
    (p.top.fileDiff p.blocks).lineAt? (newNumber p.script i) = some (trueLine p.script (st, i)) := by
  have hfind : (p.shown.find? fun s => decide ((trueLine p.script s).newNumber = some (newNumber p.script i : Int))) =
      some (st, i) := by
    refine find?_eq_some_of_pairwise (pairwise_shown p) h (decide_eq_true (newNumber_trueLine_iff.2 ⟨hst, rfl⟩)) ?_
    rintro ⟨su, j⟩ hj hji hnum
    obtain ⟨hsu, hnum⟩ := newNumber_trueLine_iff.1 (of_decide_eq_true hnum)
    have hlt : j < i := of_decide_eq_true hji
    exact hlt.ne (congrArg Prod.snd (eq_of_newNumber hj hsu h hst hnum))
  rw [FileDiff.lineAt?, find?_fileDiff fun l _ hnew => by simp [hnew], hfind]
  rfl

theorem touches_trueLine_iff : (trueLine p.script (st, i)).touches n = true ↔
    (st.old?.isSome ∧ oldNumber p.script i = n) ∨ st.new?.isSome ∧ newNumber p.script i = n := by
  rw [DiffLine.touches_iff, oldNumber_trueLine_iff, newNumber_trueLine_iff]

/-- the first step with a number, on either side -/
structure IsFirst (p : Patch) (n : Nat) (su : Step) (j : Nat) : Prop where
  mem : (su, j) ∈ p.shown
  touches : (trueLine p.script (su, j)).touches n = true
  le : ∀ tv k, (tv, k) ∈ p.shown → (trueLine p.script (tv, k)).touches n = true → j ≤ k

/-- the first line with a number on either side is that of the first step with it -/
theorem exists_touching? (h : (st, i) ∈ p.shown) (ht : (trueLine p.script (st, i)).touches n = true) :
    ∃ su j, (p.top.fileDiff p.blocks).touching? n = some (trueLine p.script (su, j)) ∧ IsFirst p n su j := by
  obtain ⟨⟨su, j⟩, hfind⟩ : ∃ s, p.shown.find? (fun s => (trueLine p.script s).touches n) = some s :=
    Option.isSome_iff_exists.1 (List.find?_isSome.2 ⟨_, h, ht⟩)
  refine ⟨su, j, ?_, List.mem_of_find?_eq_some hfind, by simpa using List.find?_some hfind, fun tv k hk hkn => ?_⟩
  · rw [FileDiff.touching?, find?_fileDiff fun l hold hnew => by simp [DiffLine.touches, hold, hnew], hfind]
    rfl
  · rcases eq_or_before_of_find? (pairwise_shown p) hfind hk hkn with heq | hlt
    · exact (congrArg Prod.snd heq).ge
    · exact (of_decide_eq_true hlt : j < k).le

theorem kindOf_eq (h : (st, i) ∈ p.shown) (hst : st.new?.isSome) :
    (p.top.fileDiff p.blocks).kindOf (newNumber p.script i) = (trueLine p.script (st, i)).kind := by
  rw [FileDiff.kindOf, FileDiff.kindAt, lineAt?_eq h hst, Option.map_some, Option.getD_some]

/-- the first step with a number is the one of the old file, if that one comes before the one of the new file -/
theorem IsFirst.eq_old (hfirst : IsFirst p n su j) (hi : (st, i) ∈ p.shown) (hst : st.new?.isSome)
    (hn : newNumber p.script i = n) {tv : Step} {k : Nat} (hk : (tv, k) ∈ p.shown) (htv : tv.old?.isSome)
    (hkn : oldNumber p.script k = n) (hki : k < i) : su = tv := by
  have hle := hfirst.le tv k hk (touches_trueLine_iff.2 (.inl ⟨htv, hkn⟩))
  rcases touches_trueLine_iff.1 hfirst.touches with ⟨hsu, hold⟩ | ⟨hsu, hnew⟩
  · exact congrArg Prod.fst (eq_of_oldNumber hfirst.mem hsu hk htv (hold.trans hkn.symm))
  · have hji : j = i := congrArg Prod.snd (eq_of_newNumber hfirst.mem hsu hi hst (hnew.trans hn.symm))
    omega

theorem IsFirst.kind_ne (hfirst : IsFirst p n su j) (hi : (st, i) ∈ p.shown) (hst : st.new?.isSome)
    (hn : newNumber p.script i = n) (hcrossed : p.Crossed n) :
    (trueLine p.script (su, j)).kind ≠ (trueLine p.script (st, i)).kind := by
  cases hcrossed with
  | @deleted t tv k _ hj hk hlt hold htv hnew =>
    obtain ⟨rfl, rfl⟩ := Prod.mk.inj (eq_of_newNumber hk htv hi hst (hnew.trans hn.symm))
    obtain rfl := hfirst.eq_old hk hst hn hj rfl hold hlt
    cases tv with
    | delete t => cases hst
    | keep t => exact LineKind.noConfusion
    | insert t => exact LineKind.noConfusion
  | inserted hj hk hlt hold hnew =>
    obtain ⟨rfl, rfl⟩ := Prod.mk.inj (eq_of_newNumber hk rfl hi hst (hnew.trans hn.symm))
    obtain rfl := hfirst.eq_old hk hst hn hj rfl hold hlt
    exact LineKind.noConfusion

theorem IsFirst.kind_eq (hfirst : IsFirst p n su j) (hi : (st, i) ∈ p.shown) (hst : st.new?.isSome)
    (hn : newNumber p.script i = n) (hcrossed : ¬ p.Crossed n) :
    (trueLine p.script (su, j)).kind = (trueLine p.script (st, i)).kind := by
  rcases touches_trueLine_iff.1 hfirst.touches with ⟨hsu, hold⟩ | ⟨hsu, hnew⟩
  · rcases (hfirst.le st i hi (touches_trueLine_iff.2 (.inr ⟨hst, hn⟩))).eq_or_lt with rfl | hji
    · rw [eq_of_mem_steps hfirst.mem hi]
    · cases su with
      | insert t => cases hsu
      | delete t => exact absurd (.deleted hfirst.mem hi hji hold hst hn) hcrossed
      | keep t =>
        cases st with
        | delete u => cases hst
        | keep u => rfl
        | insert u => exact absurd (.inserted hfirst.mem hi hji hold hn) hcrossed
  · rw [eq_of_newNumber hfirst.mem hsu hi hst (hnew.trans hn.symm)]

/-- the first line with the number of a line that is shown has the kind of that line, unless it is crossed -/
theorem exists_touching?_kind_iff (h : (st, i) ∈ p.shown) (hst : st.new?.isSome) (hn : newNumber p.script i = n) :
    ∃ l, (p.top.fileDiff p.blocks).touching? n = some l ∧
      (l.kind = (p.top.fileDiff p.blocks).kindOf n ↔ ¬ p.Crossed n) := by
  obtain ⟨su, j, hfind, hfirst⟩ := exists_touching? h (touches_trueLine_iff.2 (.inr ⟨hst, hn⟩))
  refine ⟨_, hfind, ?_⟩
  rw [← hn, kindOf_eq h hst, hn]
  exact ⟨fun hkind hcrossed => hfirst.kind_ne h hst hn hcrossed hkind, hfirst.kind_eq h hst hn⟩

/-! ## Checkers -/

/-- how the checkers label lines of the new file of a patch -/
structure Labels [Interpreter] (d : FileDiff) (p : Patch) : Prop where
  /-- the formatter checker: with the kind that the diff has for the line -/
  formatter : ∀ (k : Formatter) output fs, k.findings d output = .ok fs → ∀ f ∈ fs,
    ∃ n message, f = .line d.newPath (.int n) (d.kindOf n) (.text message) Formatter.source .error
  /-- the documentation checker: with the same kind, if the line is shown and not crossed, and only then -/
  documentation : ∀ text fs, (Documentation.checkScript d text).result = .ok fs → ∀ f ∈ fs,
    ∃ (n : Nat) (kind : LineKind) (message : String),
      f = .line d.newPath (.int n) kind (.text message) Documentation.source .error ∧
        (p.Shows n → (kind = d.kindOf n ↔ ¬ p.Crossed n))
  /-- a remark on a line that is shown is reported -/
  reported : ∀ r : Script.Remark, p.Shows r.1 → (Documentation.finding? d r).isSome
  /-- of the lines that are shown just the inserted ones are added -/
  added : ∀ n : Nat, p.Shows n → (d.kindOf n = .added ↔ Inserted p.script n)

/-- a documentation finding is a remark on a line that the diff tells of -/
theorem exists_remark_of_mem [Interpreter] {d : FileDiff} {text : List Char} {fs : List Finding} {f : Finding}
    (h : (Documentation.checkScript d text).result = .ok fs) (hf : f ∈ fs) :
    ∃ r l, d.touching? ((r : Script.Remark).1 : Nat) = some l ∧
      f = .line d.newPath (.int r.1) l.kind (.text r.2) Documentation.source .error := by
  unfold Documentation.checkScript at h
  split at h
  · cases h
    cases hf
  · cases h
  · cases h
    obtain ⟨r, -, hr⟩ := List.mem_filterMap.1 hf
    obtain ⟨l, hl, rfl⟩ := Option.map_eq_some_iff.1 hr
    exact ⟨r, l, hl, rfl⟩

theorem added_iff_of_shows (h : p.Shows n) : (p.top.fileDiff p.blocks).kindOf n = .added ↔ Inserted p.script n := by
  obtain ⟨st, i, hi, hst, rfl⟩ := h
  rw [kindOf_eq hi hst, kind_trueLine]
  constructor
  · rintro ⟨t, rfl⟩
    exact ⟨i, t, getElem?_of_mem_steps hi, rfl⟩
  · rintro ⟨j, t, hj, hnum⟩
    obtain rfl := newNumber_inj hj rfl (getElem?_of_mem_steps hi) hst hnum
    rw [getElem?_of_mem_steps hi] at hj
    exact ⟨t, Option.some.inj hj⟩

theorem labels_fileDiff [Interpreter] (p : Patch) : Labels (p.top.fileDiff p.blocks) p where
  formatter := by
    intro k output fs h f hf
    obtain ⟨text, -, hmatch⟩ := Formatter.exists_match_of_mem h hf
    obtain ⟨n, message, -, hline⟩ := Formatter.eq_line_of_match hmatch
    exact ⟨n, message, hline⟩
  documentation := by
    intro text fs h f hf
    obtain ⟨r, l, hl, rfl⟩ := exists_remark_of_mem h hf
    refine ⟨r.1, l.kind, r.2, rfl, ?_⟩
    rintro ⟨st, i, hi, hst, hn⟩
    obtain ⟨l', hl', hkind⟩ := exists_touching?_kind_iff hi hst hn
    obtain rfl : l = l' := Option.some.inj (hl.symm.trans hl')
    exact hkind
  reported := by
    rintro r ⟨st, i, hi, hst, hn⟩
    obtain ⟨l, hl, -⟩ := exists_touching?_kind_iff hi hst hn
    rw [Documentation.finding?, hl]
    rfl
  added := fun _ h => added_iff_of_shows h

/-- **Lines are labelled alike unless they are crossed.** Patches, one after another, are read as file diffs by which both
checkers give a line that is shown the same kind if and only if no other line with its number comes before it. -/
theorem labels_parsed [Interpreter] (patches : List Patch) (hreadable : ∀ p ∈ patches, p.Readable)
    (hsafe : ∀ p ∈ patches, ∀ l ∈ p.lines, Framing.Safe l) :
    ∃ diffs, parse (Framing.frameLines (textOf (patches.flatMap Patch.lines))) = .ok diffs ∧
      List.Forall₂ Labels diffs patches := by
  have hparse := parse_map_sections patches Patch.top Patch.blocks
    (fun p hp b hb => ⟨printed_blocks p b hb, (hreadable p hp b hb).1, (hreadable p hp b hb).2⟩) hsafe
  refine ⟨_, hparse, ?_⟩
  rw [List.forall₂_map_left_iff, List.forall₂_same]
  exact fun p _ => labels_fileDiff p

theorem isPlain_of_mem_nil : ∀ l ∈ ([] : List (List Char)) ++ [], IsPlain l := nofun

/-- one file that keeps its path, with a block that shows its whole script -/
def Patch.whole (path : List Char) (script : List Step) (hpath : path ≠ []) (hold : ∀ l ∈ oldSide script, '\n' ∉ l)
    (hnew : ∀ l ∈ newSide script, '\n' ∉ l) : Patch where
  top := ⟨.modified path, [], [], hpath, hpath, isPlain_of_mem_nil⟩
  old := oldSide script
  new := newSide script
  script := script
  hunks := [⟨0, script.length, []⟩]
  old_eq := rfl
  new_eq := rfl
  ordered := List.pairwise_singleton _ _
  within := by simp
  old_lines := hold
  new_lines := hnew
  heading_lines := by simp

/-- a script of one line in place of another line -/
def replaced : Patch :=
  .whole "a.py".toList [.delete "x".toList, .insert "class C: pass".toList] (by decide) (by decide) (by decide)

theorem readable_replaced : replaced.Readable := by
  have hlimit : 1 < 10 ^ Number.digitLimit := Nat.one_lt_pow (by decide) (by decide)
  exact readable_of_length_lt hlimit hlimit

theorem labels_parsed_replaced : letI : Interpreter := .usual
    (∀ p ∈ [replaced], p.Readable) ∧ (∀ p ∈ [replaced], ∀ l ∈ p.lines, Framing.Safe l) ∧
      ∃ diffs, parse (Framing.frameLines (textOf ([replaced].flatMap Patch.lines))) = .ok diffs ∧
        List.Forall₂ Labels diffs [replaced] := by
  let : Interpreter := .usual
  have hreadable : ∀ p ∈ [replaced], p.Readable := by
    intro p hp
    rw [List.mem_singleton.1 hp]
    exact readable_replaced
  have hsafe : ∀ p ∈ [replaced], ∀ l ∈ p.lines, Framing.Safe l := by decide
  exact ⟨hreadable, hsafe, labels_parsed [replaced] hreadable hsafe⟩

/-- the new script leaves its class undocumented -/
theorem undocumented_replaced :
    @Script.undocumented .usual "class C: pass\n".toList = .ok [(1, "Public class \"C\" has no docstring")] := by
  let : Interpreter := .usual
  have hread : (Script.read "class C: pass\n".toList).map (Script.remarksOnAll false) =
      some [(1, "Public class \"C\" has no docstring")] := by decide +kernel
  obtain ⟨statements, hstatements, hremarks⟩ := Option.map_eq_some_iff.1 hread
  rw [Script.undocumented_of_isScript ⟨Interpreter.parseScript_of_read (by decide) hstatements, by decide +kernel⟩, hremarks]
  simp

/-- **A line that was put in place of another one** is labelled as removed by the documentation checker, although it was
inserted. -/
theorem replaced_labelled_removed : letI : Interpreter := .usual
    textOf replaced.lines = "diff --git a/a.py b/a.py\n--- a/a.py\n+++ b/a.py\n@@ -1 +1 @@\n-x\n+class C: pass\n" ∧
      Inserted replaced.script 1 ∧
      ∃ d, parse (Framing.frameLines (textOf replaced.lines)) = .ok [d] ∧ d.kindOf 1 = .added ∧
        (Documentation.checkScript d "class C: pass\n".toList).result =
          .ok [.line "a.py" (.int 1) .removed "Public class \"C\" has no docstring" Documentation.source .error] := by
  let : Interpreter := .usual
  have hparse := parse_map_sections [replaced] Patch.top Patch.blocks
    (by
      intro p hp b hb
      rw [List.mem_singleton.1 hp] at hb
      exact ⟨printed_blocks replaced b hb, (readable_replaced b hb).1, (readable_replaced b hb).2⟩)
    (by decide)
  rw [List.flatMap_singleton] at hparse
  refine ⟨by decide, ⟨1, "class C: pass".toList, rfl, rfl⟩, _, hparse, by decide, ?_⟩
  have hpath : (replaced.top.fileDiff replaced.blocks).newPath = "a.py" := by decide
  have hfirst : (replaced.top.fileDiff replaced.blocks).touching? 1 = some ⟨.removed, "-x", some 1, none⟩ := by decide
  unfold Documentation.checkScript
  rw [undocumented_replaced]
  simp only [List.filterMap_cons, List.filterMap_nil, Documentation.finding?, Nat.cast_one, hfirst, hpath, Option.map_some]
  rfl

end ChangeLint.Diff
