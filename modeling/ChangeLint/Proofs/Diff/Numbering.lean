/-
Numbers of the lines of a section.

`numbered a c ls`: the lines `ls` as diff lines, when the counters of the old and of the new file stand at `a` and `c`. A
section without a hunk header in it adds them (`foldlM_add`), a block sets the counters and adds its own
(`foldlM_add_blocks`).

`Counts`: the invariant that ties the counters to a place in a script. A counter stands at the true number of the next
line of its file as long as such a line is to come. A step keeps it (`Counts.step`), so all lines of a hunk get their true
numbers (`diffLines_block`).
-/
import ChangeLint.Diff.Parse
import ChangeLint.Proofs.Diff.Patch
import ChangeLint.Proofs.Number.Digit

namespace ChangeLint.Diff

/-! ## Lines without a hunk header -/

/-- the counter of the old file after a line -/
def nextOld (a : Option Int) (l : List Char) : Option Int := if l.head? = some '+' then a else Section.succ a

/-- the counter of the new file after a line -/
def nextNew (c : Option Int) (l : List Char) : Option Int := if l.head? = some '-' then c else Section.succ c

/-- a line as a diff line, with the counters before it -/
def numberedLine (a c : Option Int) (l : List Char) : DiffLine :=
  if l.head? = some '+' then ⟨.added, String.ofList l, none, c⟩
  else if l.head? = some '-' then ⟨.removed, String.ofList l, a, none⟩
  else ⟨.unchanged, String.ofList l, a, c⟩

/-- lines as diff lines -/
def numbered (a c : Option Int) : List (List Char) → List DiffLine
  | [] => []
  | l :: ls => numberedLine a c l :: numbered (nextOld a l) (nextNew c l) ls

/-- a section behind a line that is no hunk header: the counters move; in the header the line may name a path -/
def Section.behind (s : Section) (l : List Char) : Section where
  paths := if s.inHeader then s.paths.take l else s.paths
  inHeader := s.inHeader
  oldNext := nextOld s.oldNext l
  newNext := nextNew s.newNext l
  lines := s.lines.push (numberedLine s.oldNext s.newNext l)

variable {l : List Char} {ls : List (List Char)}

theorem add_line (s : Section) (h : ¬ hunkMark <+: l) : s.add l = .ok (s.behind l) := by
  have hmark : hunkMark.isPrefixOf l = false := by
    rw [← Bool.not_eq_true, List.isPrefixOf_iff_prefix]
    exact h
  obtain ⟨paths, inHeader, a, c, lines⟩ := s
  by_cases hplus : l.head? = some '+'
  · cases inHeader <;> simp [Section.add, Section.behind, nextOld, nextNew, numberedLine, hmark, hplus]
  · by_cases hminus : l.head? = some '-'
    · cases inHeader <;> simp [Section.add, Section.behind, nextOld, nextNew, numberedLine, hmark, hminus]
    · cases inHeader <;> simp [Section.add, Section.behind, nextOld, nextNew, numberedLine, hmark, hplus, hminus]

/-- lines without a hunk header among them: the counters number them -/
theorem foldlM_add (s : Section) (h : ∀ l ∈ ls, ¬ hunkMark <+: l) :
    ∃ s', ls.foldlM Section.add s = .ok s' ∧
      s'.paths = (if s.inHeader then ls.foldl Paths.take s.paths else s.paths) ∧
      s'.lines.toList = s.lines.toList ++ numbered s.oldNext s.newNext ls := by
  induction ls generalizing s with
  | nil => exact ⟨s, rfl, by simp, by simp [numbered]⟩
  | cons l ls ih =>
    rw [List.foldlM_cons, add_line s (h l List.mem_cons_self)]
    obtain ⟨s', hrun, hpaths, hlines⟩ := ih (s.behind l) fun m hm => h m (List.mem_cons_of_mem l hm)
    refine ⟨s', hrun, ?_, ?_⟩
    · rw [hpaths, List.foldl_cons, Section.behind]
      cases s.inHeader <;> rfl
    · rw [hlines, numbered, Section.behind]
      simp

/-- before the first hunk header nothing is numbered -/
theorem numbered_none (ls : List (List Char)) :
    ∀ d ∈ numbered none none ls, d.oldNumber = none ∧ d.newNumber = none := by
  induction ls with
  | nil => simp [numbered]
  | cons l ls ih =>
    have hold : nextOld none l = none := by simp [nextOld, Section.succ]
    have hnew : nextNew none l = none := by simp [nextNew, Section.succ]
    intro d hd
    rw [numbered, hold, hnew, List.mem_cons] at hd
    rcases hd with rfl | hd
    · unfold numberedLine
      split_ifs <;> exact ⟨rfl, rfl⟩
    · exact ih d hd

theorem content_numbered (a c : Option Int) (ls : List (List Char)) :
    (numbered a c ls).map (·.content) = ls.map String.ofList := by
  induction ls generalizing a c with
  | nil => rfl
  | cons l ls ih =>
    have hl : (numberedLine a c l).content = String.ofList l := by
      unfold numberedLine
      split_ifs <;> rfl
    rw [numbered, List.map_cons, List.map_cons, ih, hl]

/-! ## Hunk headers -/

theorem someDigits?_append {ds : List Char} {c : Char} (hds : ∀ d ∈ ds, Text.isDigit d = true) (hne : ds ≠ [])
    (hc : Text.isDigit c = false) (rest : List Char) : someDigits? (ds ++ c :: rest) = some (ds, c :: rest) := by
  have hspan : (ds ++ c :: rest).span Text.isDigit = (ds, c :: rest) := by
    rw [List.span_eq_takeWhile_dropWhile, List.takeWhile_append_of_pos hds, List.dropWhile_append_of_pos hds,
      List.takeWhile_cons_of_neg (by simp [hc]), List.dropWhile_cons_of_neg (by simp [hc]), List.append_nil]
  obtain ⟨d, ds', rfl⟩ := List.exists_cons_of_ne_nil hne
  simp only [someDigits?, hspan]

theorem someDigits?_toDigits (n : Nat) {c : Char} (hc : Text.isDigit c = false) (rest : List Char) :
    someDigits? (Nat.toDigits 10 n ++ c :: rest) = some (Nat.toDigits 10 n, c :: rest) :=
  someDigits?_append (fun _ hd => Text.isDigit_of_mem_toDigits hd) (Text.toDigits_ne_nil n) hc rest

/-- a range is read as its start, whether its count is printed or not -/
theorem rangeStart?_range (start count : Nat) (rest : List Char) :
    rangeStart? (Block.range start count ++ ' ' :: rest) = some (Nat.toDigits 10 start, ' ' :: rest) := by
  have hcount := someDigits?_toDigits count (c := ' ') (by decide) rest
  unfold Block.range rangeStart?
  by_cases h : count = 1
  · rw [if_pos h, List.append_nil, someDigits?_toDigits start (by decide)]
    rfl
  · rw [if_neg h, List.append_assoc, List.cons_append, someDigits?_toDigits start (by decide)]
    simp only [hcount]

theorem hunkStarts?_header (b : Block) :
    hunkStarts? b.header = some (Nat.toDigits 10 b.oldStart, Nat.toDigits 10 b.newStart) := by
  have hfront : "@@ -".toList.isPrefixOf b.header = true :=
    List.isPrefixOf_iff_prefix.2 (List.prefix_append _ _)
  have hdrop : b.header.drop 4 = Block.range b.oldStart b.oldCount ++ ' ' :: ('+' ::
      (Block.range b.newStart b.newCount ++ ' ' :: ("@@".toList ++ b.heading))) := rfl
  have hback : " @@".toList.isPrefixOf (' ' :: ("@@".toList ++ b.heading)) = true :=
    List.isPrefixOf_iff_prefix.2 (List.prefix_append " @@".toList b.heading)
  rw [hunkStarts?, if_pos hfront, hdrop, rangeStart?_range]
  simp only [rangeStart?_range, hback, ite_true]

theorem readHunk_header {b : Block} (h : b.WellFormed) : readHunk b.header = .ok (b.oldStart, b.newStart) := by
  rw [readHunk, hunkStarts?_header]
  simp only [Number.ofDigits_toDigits h.oldStart_lt, Number.ofDigits_toDigits h.newStart_lt]
  rfl

/-! ## Blocks -/

/-- a block as diff lines: its header without numbers, then its lines from both starts on -/
def Block.diffLines (b : Block) : List DiffLine :=
  ⟨.metadata, String.ofList b.header, none, none⟩ :: numbered (some b.oldStart) (some b.newStart) b.body

/-- a hunk header sets both counters and ends the header of the section -/
theorem add_header (s : Section) {b : Block} (h : b.WellFormed) :
    s.add b.header = .ok ⟨s.paths, false, some b.oldStart, some b.newStart,
      s.lines.push ⟨.metadata, String.ofList b.header, none, none⟩⟩ := by
  have hmark : hunkMark.isPrefixOf b.header = true := rfl
  -- the second character of a hunk header is no marker's
  have htake : ∀ p : Paths, p.take b.header = p := fun _ => rfl
  obtain ⟨paths, inHeader, a, c, lines⟩ := s
  unfold Section.add
  simp only [hmark, readHunk_header h, htake]
  cases inHeader <;> rfl

theorem not_hunkMark_of_body {b : Block} (h : b.Printed) : ∀ l ∈ b.body, ¬ hunkMark <+: l := by
  rintro l hl ⟨rest, rfl⟩
  obtain ⟨c, hc, hhead⟩ := h.body_prefix _ hl
  have hat : c = '@' := by simpa [hunkMark] using hhead.symm
  subst hat
  exact absurd hc (by decide)

theorem foldlM_add_block (s : Section) {b : Block} (h : b.WellFormed) :
    ∃ s', b.lines.foldlM Section.add s = .ok s' ∧ s'.paths = s.paths ∧
      s'.lines.toList = s.lines.toList ++ b.diffLines := by
  obtain ⟨s', hrun, hpaths, hlines⟩ := foldlM_add ⟨s.paths, false, some b.oldStart, some b.newStart,
    s.lines.push ⟨.metadata, String.ofList b.header, none, none⟩⟩ (not_hunkMark_of_body h.toPrinted)
  refine ⟨s', ?_, ?_, ?_⟩
  · rw [Block.lines, List.foldlM_cons, add_header s h]
    exact hrun
  · simpa using hpaths
  · rw [hlines, Block.diffLines]
    simp

/-- **Blocks leave the paths alone**, and each adds its own lines -/
theorem foldlM_add_blocks (s : Section) {blocks : List Block} (h : ∀ b ∈ blocks, b.WellFormed) :
    ∃ s', (blocks.flatMap Block.lines).foldlM Section.add s = .ok s' ∧ s'.paths = s.paths ∧
      s'.lines.toList = s.lines.toList ++ blocks.flatMap Block.diffLines := by
  induction blocks generalizing s with
  | nil => exact ⟨s, rfl, rfl, by simp⟩
  | cons b blocks ih =>
    obtain ⟨s1, hrun1, hpaths1, hlines1⟩ := foldlM_add_block s (h b List.mem_cons_self)
    obtain ⟨s2, hrun2, hpaths2, hlines2⟩ := ih s1 fun b' hb' => h b' (List.mem_cons_of_mem b hb')
    refine ⟨s2, ?_, hpaths2.trans hpaths1, ?_⟩
    · rw [List.flatMap_cons, List.foldlM_append, hrun1]
      exact hrun2
    · rw [hlines2, hlines1, List.flatMap_cons, List.append_assoc]

/-! ## True numbers -/

/-- a step as a diff line, with the numbers of its line in both files -/
def Step.line (old new : Nat) (s : Step) : DiffLine :=
  match s with
  | .keep l => ⟨.unchanged, String.ofList (' ' :: l), some old, some new⟩
  | .delete l => ⟨.removed, String.ofList ('-' :: l), some old, none⟩
  | .insert l => ⟨.added, String.ofList ('+' :: l), none, some new⟩

/-- a step of a script, given with its index, as a diff line with its true numbers -/
def trueLine (script : List Step) (p : Step × Nat) : DiffLine :=
  p.1.line (oldNumber script p.2) (newNumber script p.2)

/-- the steps of a hunk with their indexes in the script -/
def Hunk.shown (script : List Step) (h : Hunk) : List (Step × Nat) := (script.zipIdx.drop h.first).take h.size

/-- a hunk as diff lines, its steps with their true numbers -/
def Hunk.diffLines (script : List Step) (h : Hunk) : List DiffLine :=
  ⟨.metadata, String.ofList (h.block script).header, none, none⟩ ::
    (h.shown script).map (trueLine script)

/-- each counter stands at the number of the next line of its file, if such a line is to come -/
structure Counts (past future : List Step) (a c : Nat) : Prop where
  old : oldSide future ≠ [] → a = (oldSide past).length + 1
  new : newSide future ≠ [] → c = (newSide past).length + 1

/-- the numbers that a step takes -/
def Step.counts (side : Step → Option (List Char)) (s : Step) : Nat := if (side s).isSome then 1 else 0

theorem Counts.step {past future : List Step} {st : Step} {a c : Nat} (h : Counts past (st :: future) a c) :
    Counts (past ++ [st]) future (a + st.counts Step.old?) (c + st.counts Step.new?) := by
  cases st with
  | keep l =>
    have ha := h.old (by simp [oldSide, Step.old?])
    have hc := h.new (by simp [newSide, Step.new?])
    constructor <;> simp [ha, hc, oldSide, newSide, Step.old?, Step.new?, Step.counts]
  | delete l =>
    have ha := h.old (by simp [oldSide, Step.old?])
    refine ⟨fun _ => ?_, fun hne => ?_⟩
    · simp [ha, oldSide, Step.old?, Step.counts]
    · have hc := h.new (by simpa [newSide, Step.new?] using hne)
      simp [hc, newSide, Step.new?, Step.counts]
  | insert l =>
    have hc := h.new (by simp [newSide, Step.new?])
    refine ⟨fun hne => ?_, fun _ => ?_⟩
    · have ha := h.old (by simpa [oldSide, Step.old?] using hne)
      simp [ha, oldSide, Step.old?, Step.counts]
    · simp [hc, newSide, Step.new?, Step.counts]

/-- the counters number a printed step as the script does -/
theorem numberedLine_printed {past future : List Step} {st : Step} {a c : Nat} (h : Counts past (st :: future) a c) :
    numberedLine (some a) (some c) st.printed = st.line ((oldSide past).length + 1) ((newSide past).length + 1) := by
  cases st with
  | keep l =>
    rw [h.old (by simp [oldSide, Step.old?]), h.new (by simp [newSide, Step.new?])]
    rfl
  | delete l =>
    rw [h.old (by simp [oldSide, Step.old?])]
    rfl
  | insert l =>
    rw [h.new (by simp [newSide, Step.new?])]
    rfl

/-- steps in a row get their true numbers -/
theorem numbered_printed {past steps : List Step} {a c : Nat} (h : Counts past steps a c) (rest : List Step) :
    numbered (some a) (some c) (steps.map Step.printed) =
      (steps.zipIdx past.length).map (trueLine (past ++ steps ++ rest)) := by
  induction steps generalizing past a c with
  | nil => rfl
  | cons st steps ih =>
    have hscript : past ++ st :: steps ++ rest = past ++ [st] ++ steps ++ rest := by simp
    have htrue : trueLine (past ++ [st] ++ steps ++ rest) (st, past.length) =
        st.line ((oldSide past).length + 1) ((newSide past).length + 1) := by
      simp [trueLine, oldNumber, newNumber]
    -- the counters behind the step agree with the script there
    have hrest := ih h.step
    rw [List.length_append, List.length_singleton] at hrest
    rw [List.zipIdx_cons, List.map_cons, List.map_cons, numbered, hscript, ← hrest, htrue, numberedLine_printed h]
    cases st <;> rfl

/-- a script as the steps before a hunk, the hunk and the steps behind it -/
theorem script_eq (script : List Step) (h : Hunk) :
    script = script.take h.first ++ h.steps script ++ script.drop (h.first + h.size) := by
  rw [Hunk.steps, List.append_assoc, ← List.drop_drop, List.take_append_drop, List.take_append_drop]

/-- at the start of a hunk the counters are set to agree with the script -/
theorem counts_start (script : List Step) (h : Hunk) :
    Counts (script.take h.first) (h.steps script) (h.block script).oldStart (h.block script).newStart := by
  constructor
  · intro hne
    exact if_neg (mt List.length_eq_zero_iff.1 hne)
  · intro hne
    exact if_neg (mt List.length_eq_zero_iff.1 hne)

/-- the steps that a hunk shows, with their indexes -/
theorem shown_eq {script : List Step} {h : Hunk} (hin : h.first + h.size ≤ script.length) :
    h.shown script = (h.steps script).zipIdx h.first := by
  have hfirst : (script.take h.first).length = h.first := List.length_take_of_le (by omega)
  have hsize : (h.steps script).length = h.size := by
    rw [Hunk.steps, List.length_take_of_le]
    rw [List.length_drop]
    omega
  rw [Hunk.shown]
  conv_lhs => rw [script_eq script h, List.zipIdx_append, List.zipIdx_append, List.append_assoc]
  rw [List.drop_left' (by rw [List.length_zipIdx, hfirst]), Nat.zero_add, hfirst,
    List.take_left' (by rw [List.length_zipIdx, hsize])]

/-- **The lines of a hunk get their true numbers** -/
theorem diffLines_block {script : List Step} {h : Hunk} (hin : h.first + h.size ≤ script.length) :
    (h.block script).diffLines = h.diffLines script := by
  have hfirst : (script.take h.first).length = h.first := List.length_take_of_le (by omega)
  have hnum := numbered_printed (counts_start script h) (script.drop (h.first + h.size))
  rw [← script_eq, hfirst, ← shown_eq hin] at hnum
  rw [Block.diffLines, Hunk.diffLines, ← hnum]
  rfl

/-! ## Numbers and files -/

variable {script : List Step} {st su : Step} {i j n : Nat} {t : List Char}

/-- the line that a step has on a side stands there behind those of the steps before it -/
theorem getElem?_filterMap (side : Step → Option (List Char)) (hi : script[i]? = some st) (ht : side st = some t) :
    (script.filterMap side)[((script.take i).filterMap side).length]? = some t := by
  obtain ⟨hlt, rfl⟩ := List.getElem?_eq_some_iff.1 hi
  have hsplit : script = script.take i ++ script[i] :: script.drop (i + 1) := by
    rw [List.getElem_cons_drop, List.take_append_drop]
  conv_lhs => rw [hsplit, List.filterMap_append, List.filterMap_cons_some ht]
  rw [← hsplit, List.getElem?_append_right le_rfl, Nat.sub_self, List.getElem?_cons_zero]

/-- a number is that of the line in the old file -/
theorem getElem?_oldSide (hi : script[i]? = some st) (ht : st.old? = some t) :
    (oldSide script)[oldNumber script i - 1]? = some t := getElem?_filterMap Step.old? hi ht

/-- a number is that of the line in the new file -/
theorem getElem?_newSide (hi : script[i]? = some st) (ht : st.new? = some t) :
    (newSide script)[newNumber script i - 1]? = some t := getElem?_filterMap Step.new? hi ht

/-- a line that a step has on a side counts for the steps behind it -/
theorem length_take_lt (side : Step → Option (List Char)) (hij : i < j) (hi : script[i]? = some st)
    (hst : (side st).isSome) : ((script.take i).filterMap side).length < ((script.take j).filterMap side).length := by
  obtain ⟨t, ht⟩ := Option.isSome_iff_exists.1 hst
  have htake : (script.take j)[i]? = some st := by rwa [List.getElem?_take_of_lt hij]
  have hget := getElem?_filterMap side htake ht
  rw [List.take_take, Nat.min_eq_left hij.le] at hget
  exact (List.getElem?_eq_some_iff.1 hget).1

/-- no two steps have one line of a side -/
theorem index_inj (side : Step → Option (List Char)) (hi : script[i]? = some st) (hst : (side st).isSome)
    (hj : script[j]? = some su) (hsu : (side su).isSome)
    (h : ((script.take i).filterMap side).length = ((script.take j).filterMap side).length) : i = j := by
  rcases Nat.lt_trichotomy i j with hij | hij | hij
  · exact absurd h (length_take_lt side hij hi hst).ne
  · exact hij
  · exact absurd h (length_take_lt side hij hj hsu).ne'

/-- no two lines of the old file have one number -/
theorem oldNumber_inj (hi : script[i]? = some st) (hst : st.old?.isSome) (hj : script[j]? = some su)
    (hsu : su.old?.isSome) (h : oldNumber script i = oldNumber script j) : i = j :=
  index_inj Step.old? hi hst hj hsu (Nat.succ.inj h)

/-- no two lines of the new file have one number -/
theorem newNumber_inj (hi : script[i]? = some st) (hst : st.new?.isSome) (hj : script[j]? = some su)
    (hsu : su.new?.isSome) (h : newNumber script i = newNumber script j) : i = j :=
  index_inj Step.new? hi hst hj hsu (Nat.succ.inj h)

/-- the steps of a hunk are steps of the script, each with its own index -/
theorem getElem?_of_mem_shown {h : Hunk} (hmem : (st, i) ∈ h.shown script) : script[i]? = some st :=
  List.mk_mem_zipIdx_iff_getElem?.1 (List.mem_of_mem_drop (List.mem_of_mem_take hmem))

/-- and all those that it covers -/
theorem mem_shown {h : Hunk} (hi : script[i]? = some st) (hfirst : h.first ≤ i) (hlast : i < h.first + h.size) :
    (st, i) ∈ h.shown script := by
  rw [Hunk.shown, List.mem_iff_getElem?]
  refine ⟨i - h.first, ?_⟩
  rw [List.getElem?_take_of_lt (by omega), List.getElem?_drop, List.getElem?_zipIdx, Nat.add_sub_cancel' hfirst, hi,
    Option.map_some, Nat.zero_add]

theorem mem_shown_iff {h : Hunk} (hin : h.first + h.size ≤ script.length) :
    (∃ st, (st, i) ∈ h.shown script) ↔ h.first ≤ i ∧ i < h.first + h.size := by
  constructor
  · rintro ⟨st, hmem⟩
    rw [shown_eq hin] at hmem
    have hlt := List.snd_lt_of_mem_zipIdx hmem
    have hle := List.le_snd_of_mem_zipIdx hmem
    have hlength : (h.steps script).length ≤ h.size := by
      rw [Hunk.steps]
      exact List.length_take_le _ _
    exact ⟨hle, by omega⟩
  · rintro ⟨hfirst, hlast⟩
    exact ⟨script[i], mem_shown (List.getElem?_eq_getElem (by omega)) hfirst hlast⟩

/-- true when a line of the new file with this number was inserted -/
def Inserted (script : List Step) (n : Nat) : Prop := ∃ i t, script[i]? = some (.insert t) ∧ newNumber script i = n

/-- a step is shown with a number in the new file if it gives a line there -/
theorem newNumber_trueLine {n : Int} (h : (trueLine script (st, i)).newNumber = some n) :
    ∃ t, st.new? = some t ∧ n = newNumber script i ∧
      ∃ c, (trueLine script (st, i)).content = String.ofList (c :: t) := by
  cases st with
  | keep t => exact ⟨t, rfl, (Option.some.inj h).symm, ' ', rfl⟩
  | delete t => cases h
  | insert t => exact ⟨t, rfl, (Option.some.inj h).symm, '+', rfl⟩

theorem oldNumber_trueLine {n : Int} (h : (trueLine script (st, i)).oldNumber = some n) :
    ∃ t, st.old? = some t ∧ n = oldNumber script i ∧
      ∃ c, (trueLine script (st, i)).content = String.ofList (c :: t) := by
  cases st with
  | keep t => exact ⟨t, rfl, (Option.some.inj h).symm, ' ', rfl⟩
  | delete t => exact ⟨t, rfl, (Option.some.inj h).symm, '-', rfl⟩
  | insert t => cases h

theorem kind_trueLine : (trueLine script (st, i)).kind = .added ↔ ∃ t, st = .insert t := by
  cases st with
  | keep t => exact ⟨nofun, nofun⟩
  | delete t => exact ⟨nofun, nofun⟩
  | insert t => exact ⟨fun _ => ⟨t, rfl⟩, fun _ => rfl⟩

/-- a numbered line of a hunk is that of a step -/
theorem exists_trueLine {h : Hunk} {l : DiffLine} (hl : l ∈ h.diffLines script)
    (hnum : l.oldNumber ≠ none ∨ l.newNumber ≠ none) :
    ∃ st i, script[i]? = some st ∧ l = trueLine script (st, i) := by
  rcases List.mem_cons.1 hl with rfl | hl
  · simp at hnum
  · obtain ⟨⟨st, i⟩, hmem, rfl⟩ := List.mem_map.1 hl
    exact ⟨st, i, getElem?_of_mem_shown hmem, rfl⟩

end ChangeLint.Diff
