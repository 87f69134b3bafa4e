/-
Which findings count.

`Counts diffs f` says it from the diffs alone: a finding on a line counts if a diff of its path shows a line with its
number, on either side; every other finding counts. A path that is no text is the path of no diff.

Results:
- `isRelevant_eq`: the test decides `Counts`, for findings whose path can be looked up;
- `filter_eq`: filtering keeps the findings that count, in their order and as often as they stand there.
-/
import ChangeLint.Finding.Relevance
import ChangeLint.Proofs.Act
import Mathlib.Tactic

namespace ChangeLint.Relevance

/-- a diff of a path shows a line with a number, as one of the old or of the new file -/
def Shows (diffs : List FileDiff) (path : String) (n : Int) : Prop :=
  ∃ d ∈ diffs, d.newPath = path ∧ ∃ l ∈ d.lines, l.oldNumber = some n ∨ l.newNumber = some n

instance (diffs : List FileDiff) (path : String) (n : Int) : Decidable (Shows diffs path n) :=
  inferInstanceAs (Decidable (∃ d ∈ diffs, d.newPath = path ∧ ∃ l ∈ d.lines, l.oldNumber = some n ∨ l.newNumber = some n))

/-- a datum that is a text, as this text -/
def text? : Datum → Option String
  | .text s => some s
  | _ => none

/-- true of findings that count -/
def Counts (diffs : List FileDiff) : Finding → Prop
  | .line path number _ _ _ _ => ∃ p ∈ text? path, ∃ n ∈ Finding.lineNumberOf number, Shows diffs p n
  | _ => True

instance (diffs : List FileDiff) : DecidablePred (Counts diffs)
  | .line path number _ _ _ _ =>
    inferInstanceAs (Decidable (∃ p ∈ text? path, ∃ n ∈ Finding.lineNumberOf number, Shows diffs p n))
  | .file _ _ _ _ | .mergeRequest _ _ _ => isTrue trivial

/-- true of findings whose path can be looked up, if they are on a line: it is no list and no table -/
def HasKey : Finding → Prop
  | .line (.list _) _ _ _ _ _ | .line (.table _) _ _ _ _ _ | .line (.brokenTable _) _ _ _ _ _ => False
  | _ => True

variable {diffs : List FileDiff} {f : Finding} {fs : List Finding} {path : String} {n : Int}

theorem mem_numbers {d : FileDiff} : n ∈ d.numbers ↔ ∃ l ∈ d.lines, l.oldNumber = some n ∨ l.newNumber = some n := by
  simp only [FileDiff.numbers, List.mem_flatMap, List.mem_append, Option.mem_toList]

theorem mem_numbersOf : n ∈ numbersOf diffs path ↔ Shows diffs path n := by
  simp only [numbersOf, List.mem_flatMap, List.mem_filter, decide_eq_true_eq, mem_numbers, Shows, and_assoc]

/-- what is found in a list that has one entry for each key -/
theorem lookup_map {α : Type} (value : String → α) (key : String) (keys : List String) :
    (keys.map fun k => (k, value k)).lookup key = if key ∈ keys then some (value key) else none := by
  induction keys with
  | nil => rfl
  | cons k keys ih =>
    by_cases h : key = k
    · simp [h]
    · have hne : (key == k) = false := by simpa using h
      rw [List.map_cons, List.lookup_cons, hne, ih]
      simp [h]

/-- the numbers of a path are those that its diffs show -/
theorem exists_lookup_numbersByPath :
    (∃ numbers, (numbersByPath diffs).lookup path = some numbers ∧ n ∈ numbers) ↔ Shows diffs path n := by
  rw [numbersByPath, lookup_map, ← mem_numbersOf]
  split
  · simp
  · rename_i hno
    have hnone : n ∉ numbersOf diffs path := by
      rw [mem_numbersOf]
      rintro ⟨d, hd, rfl, -⟩
      exact hno (List.mem_eraseDups.2 (List.mem_map_of_mem hd))
    simp [hnone]

theorem keyOf_eq {path number text : Datum} {kind : LineKind} {source : Source} {severity : Severity}
    (h : HasKey (.line path number kind text source severity)) : keyOf path = .ok (text? path) := by
  cases path with
  | list items => exact h.elim
  | table members => exact h.elim
  | brokenTable members => exact h.elim
  | _ => rfl

theorem isRelevant_eq (h : HasKey f) : isRelevant diffs f = .ok (decide (Counts diffs f)) := by
  cases f with
  | mergeRequest => rfl
  | file => rfl
  | line path number kind text source severity =>
    rw [isRelevant, keyOf_eq h, Except.map]
    congr 1
    rw [Bool.eq_iff_iff, decide_eq_true_iff]
    simp only [Counts, Option.mem_def, ← exists_lookup_numbersByPath, Finding.lineNumber?]
    cases text? path with
    | none => simp
    | some p =>
      simp only [Option.some.injEq, exists_eq_left', Option.bind_some]
      cases (numbersByPath diffs).lookup p with
      | none => simp
      | some numbers =>
        cases Finding.lineNumberOf number with
        | none => simp
        | some m => simp

theorem kept_eq (h : ∀ f ∈ fs, HasKey f) : kept diffs fs = .ok (fs.filter fun f => Counts diffs f) := by
  induction fs with
  | nil => rfl
  | cons f fs ih =>
    rw [kept, isRelevant_eq (h f List.mem_cons_self), ih fun g hg => h g (List.mem_cons_of_mem f hg), List.filter_cons]
    rfl

theorem filter_of_kept {ks : List Finding} (h : kept diffs fs = .ok ks) :
    (filter diffs fs).result = .ok ks ∧ (filter diffs fs).calls = [] := by
  rw [filter, h, Act.result_bind, Act.calls_bind_of_ok (Act.result_ofExcept _), Act.result_ofExcept, Except.bind]
  by_cases hdropped : fs.length - ks.length = 0
  · simp only [hdropped, ite_true]
    exact ⟨rfl, rfl⟩
  · simp only [hdropped, ite_false]
    exact ⟨rfl, rfl⟩

/-- **Filtering keeps the findings that count**, in their order, and runs nothing -/
theorem filter_eq (h : ∀ f ∈ fs, HasKey f) :
    (filter diffs fs).result = .ok (fs.filter fun f => Counts diffs f) ∧ (filter diffs fs).calls = [] :=
  filter_of_kept (kept_eq h)

end ChangeLint.Relevance
