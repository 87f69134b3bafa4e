/-
What a diff says, described without counters.

The records are cut into sections, one for each section mark (`sectionsOf`). A section describes a file diff if both its
paths are known in the end (`fileDiff?`), with one line for each of its records: the kind is told by the front of the
record, and the number on a side by the last hunk header before it and by the records of that side in between
(`describedLine`).

`Agrees`: the invariant of a section that is being read. The counters stand where the description puts the next record, so
a record keeps it (`Agrees.add`). `parse_described`: reading yields what is described, for every text whose hunk headers
can be read.
-/
import ChangeLint.Proofs.Diff.Legible
import ChangeLint.Proofs.Diff.Numbering
import Mathlib.Data.List.DropRight

namespace ChangeLint.Diff

/-! ## The description -/

/-- true of records that begin a section -/
def isTitle (l : List Char) : Bool := sectionMark.isPrefixOf l

/-- true of records that begin a hunk -/
def isHunk (l : List Char) : Bool := hunkMark.isPrefixOf l

/-- the sections of records, each as its title and the records behind it -/
def sectionsOf : List (List Char) → List (List Char × List (List Char))
  | [] => []
  | l :: ls => if isTitle l then (l, ls.takeWhile fun m => !isTitle m) :: sectionsOf ls else sectionsOf ls

/-- the paths that a section ends with: those of its title as the records before the first hunk replace them, if the title
names any -/
def finalPaths (title : Paths) (ls : List (List Char)) : Paths :=
  if title.old = [] ∧ title.new = [] then title else (ls.takeWhile fun l => !isHunk l).foldl Paths.take title

/-- the kind of line that a record is -/
def recordKind (l : List Char) : LineKind :=
  if isHunk l then .metadata
  else if l.head? = some '+' then .added
  else if l.head? = some '-' then .removed
  else .unchanged

/-- the kinds of lines that stand in the old file -/
def inOld (k : LineKind) : Bool := k = .removed || k = .unchanged

/-- the kinds of lines that stand in the new file -/
def inNew (k : LineKind) : Bool := k = .added || k = .unchanged

/-- the starts of a hunk header, from zero if it is malformed -/
def startsOf (l : List Char) : Nat × Nat :=
  match hunkStarts? l with
  | none => (0, 0)
  | some (old, new) => (Text.ofDigits old, Text.ofDigits new)

/-- the number of the next line on a side, behind some records of a section: the start of the last hunk and the lines of
that side since, none before the first hunk -/
def nextNumber (start : Nat × Nat → Nat) (side : LineKind → Bool) (before : List (List Char)) : Option Int :=
  (before.filter isHunk).getLast?.map fun l =>
    start (startsOf l) + ((before.rtakeWhile fun m => !isHunk m).countP fun m => side (recordKind m) : Nat)

/-- a record as a line, behind other records of its section -/
def describedLine (before : List (List Char)) (l : List Char) : DiffLine where
  kind := recordKind l
  content := String.ofList l
  oldNumber := if inOld (recordKind l) then nextNumber Prod.fst inOld before else none
  newNumber := if inNew (recordKind l) then nextNumber Prod.snd inNew before else none

/-- the records of a section as lines -/
def describedLines (ls : List (List Char)) : List DiffLine := ls.mapIdx fun i l => describedLine (ls.take i) l

/-- the file diff of a section, if both its paths are known in the end -/
def fileDiff? (title : Paths) (ls : List (List Char)) : Option FileDiff :=
  let paths := finalPaths title ls
  if paths.old = [] ∨ paths.new = [] then none
  else some ⟨String.ofList paths.old, String.ofList paths.new, describedLines ls⟩

/-- the paths that a title names -/
def titlePaths (title : List Char) : Paths := ⟨(headerPaths title).1, (headerPaths title).2⟩

/-- the file diffs of records -/
def described (records : List (List Char)) : List FileDiff :=
  (sectionsOf records).filterMap fun s => fileDiff? (titlePaths s.1) s.2

variable {l : List Char} {ls before : List (List Char)} {title : Paths} {s : Section}

/-! ## One more record -/

theorem describedLines_concat (before : List (List Char)) (l : List Char) :
    describedLines (before ++ [l]) = describedLines before ++ [describedLine before l] := by
  have htake : ∀ (i : Nat) (h : i < before.length), (before ++ [l]).take i = before.take i :=
    fun i h => List.take_append_of_le_length h.le
  unfold describedLines
  rw [List.mapIdx_concat, List.take_left]
  congr 1
  refine List.ext_getElem (by simp) fun i h h' => ?_
  rw [List.getElem_mapIdx, List.getElem_mapIdx, htake i (by simpa using h)]

/-- a hunk header sets the numbers -/
theorem nextNumber_hunk (h : isHunk l = true) (start : Nat × Nat → Nat) (side : LineKind → Bool) :
    nextNumber start side (before ++ [l]) = some (start (startsOf l) : Int) := by
  rw [nextNumber, List.filter_append, List.filter_singleton, h, cond_true, List.getLast?_concat,
    List.rtakeWhile_concat_neg _ _ _ (by simp [h])]
  simp

/-- another record moves them on the sides that it stands on -/
theorem nextNumber_line (h : isHunk l = false) (start : Nat × Nat → Nat) (side : LineKind → Bool) :
    nextNumber start side (before ++ [l]) =
      if side (recordKind l) then Section.succ (nextNumber start side before) else nextNumber start side before := by
  rw [nextNumber, List.filter_append, List.filter_singleton, h, cond_false, List.append_nil,
    List.rtakeWhile_concat_pos _ _ _ (by simp [h]), List.countP_append, List.countP_singleton]
  unfold nextNumber Section.succ
  cases (before.filter isHunk).getLast? with
  | none => split <;> rfl
  | some m =>
    split
    · simp [add_assoc]
    · simp

/-- a hunk header ends the part of a section that may name paths -/
theorem takeWhile_concat (before : List (List Char)) (l : List Char) :
    (before ++ [l]).takeWhile (fun m => !isHunk m) =
      (before.takeWhile fun m => !isHunk m) ++ if (before ++ [l]).any isHunk then [] else [l] := by
  induction before with
  | nil => cases h : isHunk l <;> simp [h]
  | cons m before ih =>
    cases h : isHunk m with
    | true => simp [h]
    | false => simp [h, ih]

/-- no path stands on a hunk header -/
theorem take_hunk (h : isHunk l = true) (p : Paths) : p.take l = p := by
  obtain ⟨rest, rfl⟩ := List.isPrefixOf_iff_prefix.1 h
  rfl

/-- another record may name a path, if the title does and no hunk has begun -/
theorem finalPaths_concat (title : Paths) (before : List (List Char)) (l : List Char) :
    finalPaths title (before ++ [l]) =
      if !(title.old.isEmpty && title.new.isEmpty) && !(before ++ [l]).any isHunk then (finalPaths title before).take l
      else finalPaths title before := by
  unfold finalPaths
  by_cases htitle : title.old = [] ∧ title.new = []
  · simp [htitle]
  · have hnamed : (!(title.old.isEmpty && title.new.isEmpty)) = true := by
      rw [not_and_or] at htitle
      simpa using htitle
    rw [if_neg htitle, if_neg htitle, hnamed, Bool.true_and, takeWhile_concat]
    cases (before ++ [l]).any isHunk <;> simp

/-! ## Sections -/

/-- a section that has read some records agrees with what is described of them -/
structure Agrees (title : Paths) (before : List (List Char)) (s : Section) : Prop where
  paths : s.paths = finalPaths title before
  /-- paths may still be named: the title names one, and no hunk has begun -/
  inHeader : s.inHeader = (!(title.old.isEmpty && title.new.isEmpty) && !before.any isHunk)
  oldNext : s.oldNext = nextNumber Prod.fst inOld before
  newNext : s.newNext = nextNumber Prod.snd inNew before
  lines : s.lines.toList = describedLines before

theorem agrees_none : Agrees ⟨[], []⟩ [] .none := ⟨rfl, rfl, rfl, rfl, rfl⟩

theorem agrees_opened (l : List Char) : Agrees (titlePaths l) [] (.opened l) := by
  refine ⟨?_, ?_, rfl, rfl, rfl⟩
  · exact (ite_self _).symm
  · simp [Section.opened, titlePaths, Bool.not_and]

theorem readHunk_of_legible (h : LegibleLine l) : readHunk l = .ok (startsOf l) := by
  unfold readHunk startsOf
  cases hstarts : hunkStarts? l with
  | none => rfl
  | some starts =>
    obtain ⟨hold, hnew⟩ := h starts hstarts
    simp only [ofDigits_of_length_le hold, ofDigits_of_length_le hnew]
    rfl

theorem add_hunk (s : Section) (h : isHunk l = true) (hlegible : LegibleLine l) :
    s.add l = .ok ⟨s.paths, false, some (startsOf l).1, some (startsOf l).2,
      s.lines.push ⟨.metadata, String.ofList l, none, none⟩⟩ := by
  have hmark : hunkMark.isPrefixOf l = true := h
  obtain ⟨paths, inHeader, a, c, lines⟩ := s
  unfold Section.add
  simp only [hmark, readHunk_of_legible hlegible, take_hunk h]
  cases inHeader <;> rfl

/-- behind a hunk header the counters stand at its starts -/
theorem Agrees.hunk (hagrees : Agrees title before s) (h : isHunk l = true) :
    Agrees title (before ++ [l]) ⟨s.paths, false, some (startsOf l).1, some (startsOf l).2,
      s.lines.push ⟨.metadata, String.ofList l, none, none⟩⟩ where
  paths := by
    have hany : (before ++ [l]).any isHunk = true := by simp [h]
    rw [finalPaths_concat, hany]
    simpa using hagrees.paths
  inHeader := by simp [h]
  oldNext := (nextNumber_hunk h Prod.fst inOld).symm
  newNext := (nextNumber_hunk h Prod.snd inNew).symm
  lines := by
    have hline : describedLine before l = ⟨.metadata, String.ofList l, none, none⟩ := by
      simp [describedLine, recordKind, h, inOld, inNew]
    rw [describedLines_concat, hline, ← hagrees.lines, Array.toList_push]

/-- a record that is no hunk header stands on a side unless its front says otherwise -/
theorem recordKind_cases (h : isHunk l = false) :
    (l.head? = some '+' ∧ recordKind l = .added) ∨ (l.head? = some '-' ∧ recordKind l = .removed) ∨
      (l.head? ≠ some '+' ∧ l.head? ≠ some '-' ∧ recordKind l = .unchanged) := by
  unfold recordKind
  rw [h, if_neg Bool.false_ne_true]
  by_cases hplus : l.head? = some '+'
  · exact Or.inl ⟨hplus, if_pos hplus⟩
  · by_cases hminus : l.head? = some '-'
    · exact Or.inr (Or.inl ⟨hminus, by rw [if_neg hplus, if_pos hminus]⟩)
    · exact Or.inr (Or.inr ⟨hplus, hminus, by rw [if_neg hplus, if_neg hminus]⟩)

theorem describedLine_eq (h : isHunk l = false) (before : List (List Char)) :
    describedLine before l =
      numberedLine (nextNumber Prod.fst inOld before) (nextNumber Prod.snd inNew before) l := by
  rcases recordKind_cases h with ⟨hhead, hkind⟩ | ⟨hhead, hkind⟩ | ⟨hplus, hminus, hkind⟩
  · simp [describedLine, numberedLine, hhead, hkind, inOld, inNew]
  · simp [describedLine, numberedLine, hhead, hkind, inOld, inNew]
  · simp [describedLine, numberedLine, hplus, hminus, hkind, inOld, inNew]

theorem nextNumber_old (h : isHunk l = false) (before : List (List Char)) :
    nextNumber Prod.fst inOld (before ++ [l]) = nextOld (nextNumber Prod.fst inOld before) l := by
  rw [nextNumber_line h]
  rcases recordKind_cases h with ⟨hhead, hkind⟩ | ⟨hhead, hkind⟩ | ⟨hplus, hminus, hkind⟩
  · simp [nextOld, hhead, hkind, inOld]
  · simp [nextOld, hhead, hkind, inOld]
  · simp [nextOld, hplus, hkind, inOld]

theorem nextNumber_new (h : isHunk l = false) (before : List (List Char)) :
    nextNumber Prod.snd inNew (before ++ [l]) = nextNew (nextNumber Prod.snd inNew before) l := by
  rw [nextNumber_line h]
  rcases recordKind_cases h with ⟨hhead, hkind⟩ | ⟨hhead, hkind⟩ | ⟨hplus, hminus, hkind⟩
  · simp [nextNew, hhead, hkind, inNew]
  · simp [nextNew, hhead, hkind, inNew]
  · simp [nextNew, hminus, hkind, inNew]

/-- another record takes the numbers at which the counters stand, and moves those of its sides -/
theorem Agrees.line (hagrees : Agrees title before s) (h : isHunk l = false) :
    Agrees title (before ++ [l]) (s.behind l) := by
  have hany : (before ++ [l]).any isHunk = before.any isHunk := by simp [h]
  refine ⟨?_, ?_, ?_, ?_, ?_⟩
  · rw [finalPaths_concat, hany, ← hagrees.inHeader, ← hagrees.paths]
    rfl
  · rw [hany]
    exact hagrees.inHeader
  · rw [nextNumber_old h, ← hagrees.oldNext]
    rfl
  · rw [nextNumber_new h, ← hagrees.newNext]
    rfl
  · rw [describedLines_concat, describedLine_eq h, ← hagrees.lines, ← hagrees.oldNext, ← hagrees.newNext]
    exact Array.toList_push

/-- **A record is read as it is described** -/
theorem Agrees.add (hagrees : Agrees title before s) (hlegible : LegibleLine l) :
    ∃ s', s.add l = .ok s' ∧ Agrees title (before ++ [l]) s' := by
  cases h : isHunk l with
  | true => exact ⟨_, add_hunk s h hlegible, hagrees.hunk h⟩
  | false =>
    refine ⟨s.behind l, add_line s fun hmark => ?_, hagrees.line h⟩
    rw [isHunk, List.isPrefixOf_iff_prefix.2 hmark] at h
    cases h

/-- and so are the records of a section -/
theorem Agrees.foldlM_add (hagrees : Agrees title before s) (hlegible : ∀ l ∈ ls, LegibleLine l) :
    ∃ s', ls.foldlM Section.add s = .ok s' ∧ Agrees title (before ++ ls) s' := by
  induction ls generalizing before s with
  | nil => exact ⟨s, rfl, by rwa [List.append_nil]⟩
  | cons l ls ih =>
    obtain ⟨s1, hadd, hagrees1⟩ := hagrees.add (hlegible l List.mem_cons_self)
    obtain ⟨s2, hrun, hagrees2⟩ := ih hagrees1 fun m hm => hlegible m (List.mem_cons_of_mem l hm)
    refine ⟨s2, ?_, ?_⟩
    · rw [List.foldlM_cons, hadd]
      exact hrun
    · rwa [List.append_assoc, List.singleton_append] at hagrees2

/-- a section that has been read is closed as the file diff that is described -/
theorem Agrees.build?_eq (hagrees : Agrees title ls s) : s.build? = fileDiff? title ls := by
  rw [Section.build?, fileDiff?, hagrees.paths, hagrees.lines]
  cases hold : (finalPaths title ls).old with
  | nil => rfl
  | cons c old =>
    cases hnew : (finalPaths title ls).new with
    | nil => rfl
    | cons d new => rfl

/-! ## Records -/

/-- what the section at hand has read is closed with the records up to the next title, and then the sections follow -/
theorem foldlM_feed_records (r : Reading) (hagrees : Agrees title before r.current) (hlegible : ∀ l ∈ ls, LegibleLine l) :
    ∃ r', ls.foldlM Reading.feed r = .ok r' ∧
      r'.files.toList = r.done.toList ++ (fileDiff? title (before ++ ls.takeWhile fun l => !isTitle l)).toList ++
        described ls := by
  have hfiles : ∀ {title before} (r : Reading), Agrees title before r.current →
      r.files.toList = r.done.toList ++ (fileDiff? title before).toList := by
    intro title before r h
    rw [← h.build?_eq, Reading.files]
    cases r.current.build? <;> simp
  induction ls generalizing title before r with
  | nil => exact ⟨r, rfl, by simpa [described, sectionsOf] using hfiles r hagrees⟩
  | cons l ls ih =>
    have hrest : ∀ m ∈ ls, LegibleLine m := fun m hm => hlegible m (List.mem_cons_of_mem l hm)
    cases htitle : isTitle l with
    | true =>
      have hfeed : r.feed l = .ok ⟨r.files, .opened l⟩ := if_pos htitle
      obtain ⟨r', hrun, hdone⟩ := ih ⟨r.files, .opened l⟩ (agrees_opened l) hrest
      refine ⟨r', by rw [List.foldlM_cons, hfeed]; exact hrun, ?_⟩
      rw [hdone, hfiles r hagrees]
      simp [described, sectionsOf, htitle, List.filterMap_cons]
      cases fileDiff? (titlePaths l) (ls.takeWhile fun m => !isTitle m) <;> simp
    | false =>
      obtain ⟨s, hadd, hagrees'⟩ := hagrees.add (hlegible l List.mem_cons_self)
      have hfeed : r.feed l = .ok { r with current := s } := by
        have hmark : sectionMark.isPrefixOf l = false := htitle
        rw [Reading.feed, hmark, hadd]
        rfl
      obtain ⟨r', hrun, hdone⟩ := ih { r with current := s } hagrees' hrest
      refine ⟨r', by rw [List.foldlM_cons, hfeed]; exact hrun, ?_⟩
      rw [hdone]
      simp [described, sectionsOf, htitle]

/-- **Reading yields what is described** -/
theorem parse_described (framed : String) (hlegible : ∀ l ∈ Framing.recordsOf framed.toList, LegibleLine l) :
    parse framed = .ok (described (Framing.recordsOf framed.toList)) := by
  obtain ⟨r, hrun, hfiles⟩ := foldlM_feed_records .start agrees_none hlegible
  rw [parse, ofRecords, hrun, Except.map, hfiles]
  rfl

/-- a stray line, a section with a malformed hunk header and a well-formed one, and a section without paths -/
def mixedLines : List (List Char) :=
  ["stray".toList, "diff --git a/f b/g".toList, "--- a/f".toList, "@@ bad".toList, " x".toList, "+y".toList,
    "@@ -3 +4,2 @@ g".toList, "-z".toList, "+w".toList, " v".toList, "diff --git".toList, "@@ -1 +1 @@".toList, "+lost".toList]

theorem parse_described_mixed :
    (∀ l ∈ Framing.recordsOf (Framing.frameLines (textOf mixedLines)).toList, LegibleLine l) ∧
      parse (Framing.frameLines (textOf mixedLines)) =
        .ok (described (Framing.recordsOf (Framing.frameLines (textOf mixedLines)).toList)) ∧
      described (Framing.recordsOf (Framing.frameLines (textOf mixedLines)).toList) =
        [⟨"f", "g",
          [⟨.removed, "--- a/f", none, none⟩, ⟨.metadata, "@@ bad", none, none⟩, ⟨.unchanged, " x", some 0, some 0⟩,
            ⟨.added, "+y", none, some 1⟩, ⟨.metadata, "@@ -3 +4,2 @@ g", none, none⟩, ⟨.removed, "-z", some 3, none⟩,
            ⟨.added, "+w", none, some 4⟩, ⟨.unchanged, " v", some 4, some 5⟩]⟩] := by
  have hrecords : Framing.recordsOf (Framing.frameLines (textOf mixedLines)).toList = mixedLines :=
    Framing.recordsOf_frameLines (by decide) (by decide) (by decide)
  have hlegible : ∀ l ∈ Framing.recordsOf (Framing.frameLines (textOf mixedLines)).toList, LegibleLine l := by
    rw [hrecords]
    decide
  refine ⟨hlegible, parse_described _ hlegible, ?_⟩
  rw [hrecords]
  decide

end ChangeLint.Diff
