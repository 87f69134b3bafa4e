/-
Remarks in a diff.

Behind a line that ends its file without a break, version control prints a remark, on a line of its own. It belongs to
neither file, but it is read like a line that both files have: it takes a number on both sides, and moves the lines behind
it in its hunk (`Hunk.remarkedLines`).

`parse_remarked`: a diff with remarks is read as the same diff without them, but for that: each line of a hunk has its true
numbers and one more for every remark before it in the hunk. The other lines keep their numbers if and only if every remark
stands behind the last line of its hunk (`Shifts.kept`). `remarks_move_lines`: when both files have one line without a
break, the line that was changed is found as the second one.
-/
import ChangeLint.Proofs.Diff.TrueNumbers
import Mathlib.Data.Nat.Count

namespace ChangeLint.Diff

/-! ## Remarks -/

/-- the remark on a line that ends its file without a break -/
def remark : List Char := "\\ No newline at end of file".toList

/-- a patch, and the steps behind whose lines a remark is printed -/
structure Remarked where
  patch : Patch
  marked : Nat → Bool

/-- a line with its numbers moved -/
def shift (l : DiffLine) (k : Nat) : DiffLine :=
  { l with oldNumber := l.oldNumber.map (· + (k : Int)), newNumber := l.newNumber.map (· + (k : Int)) }

/-- true of lines that are remarks -/
def isRemark (l : DiffLine) : Bool := l.content = String.ofList remark

namespace Hunk

/-- a hunk as it is printed with remarks -/
def remarkedBlock (script : List Step) (marked : Nat → Bool) (h : Hunk) : Block :=
  { h.block script with
    body := (h.shown script).flatMap fun p => p.1.printed :: if marked p.2 then [remark] else [] }

/-- the remarks of a hunk before a step -/
def remarks (marked : Nat → Bool) (h : Hunk) (i : Nat) : Nat := Nat.count (fun j => h.first ≤ j ∧ marked j = true) i

/-- the start of a side and the lines that the hunk shows of it before a step -/
def next (start : Nat) (side : Step → Option (List Char)) (script : List Step) (h : Hunk) (i : Nat) : Nat :=
  start + (((script.take i).drop h.first).filterMap side).length

/-- the remark behind a step as it is read: an unchanged line with a number on both sides -/
def remarkLine (script : List Step) (marked : Nat → Bool) (h : Hunk) (i : Nat) : DiffLine :=
  ⟨.unchanged, String.ofList remark,
    some (h.next (h.block script).oldStart Step.old? script (i + 1) + h.remarks marked i : Nat),
    some (h.next (h.block script).newStart Step.new? script (i + 1) + h.remarks marked i : Nat)⟩

/-- a hunk with remarks as diff lines: its steps with their true numbers, moved by the remarks before them -/
def remarkedLines (script : List Step) (marked : Nat → Bool) (h : Hunk) : List DiffLine :=
  ⟨.metadata, String.ofList (h.block script).header, none, none⟩ ::
    (h.shown script).flatMap fun p =>
      shift (trueLine script p) (h.remarks marked p.2) :: if marked p.2 then [h.remarkLine script marked p.2] else []

end Hunk

namespace Remarked

def blocks (p : Remarked) : List Block := p.patch.hunks.map (Hunk.remarkedBlock p.patch.script p.marked)

def lines (p : Remarked) : List (List Char) := p.patch.top.lines p.blocks

/-- every remark stands behind the last line of its hunk -/
def EndsHunks (p : Remarked) : Prop :=
  ∀ h ∈ p.patch.hunks, ∀ i, h.first ≤ i → i + 1 < h.first + h.size → p.marked i = false

end Remarked

/-- what remarks do to the file diff of a patch -/
structure Shifts (plain d : FileDiff) (p : Remarked) : Prop where
  oldPath : d.oldPath = plain.oldPath
  newPath : d.newPath = plain.newPath
  lines : ∃ top, plain.lines = top ++ p.patch.hunks.flatMap (Hunk.diffLines p.patch.script) ∧
    d.lines = top ++ p.patch.hunks.flatMap (Hunk.remarkedLines p.patch.script p.marked)
  /-- when the other lines are as they were -/
  kept : (d.lines.filter fun l => !isRemark l) = (plain.lines.filter fun l => !isRemark l) ↔ p.EndsHunks

variable {script past steps rest : List Step} {marked : Nat → Bool} {h : Hunk} {a c i : Nat}

/-! ## Numbers -/

theorem numberedLine_shift (a c k : Nat) (l : List Char) :
    numberedLine (some (a + k : Nat)) (some (c + k : Nat)) l = shift (numberedLine (some a) (some c) l) k := by
  unfold numberedLine shift
  split_ifs <;> simp

theorem nextOld_some (a : Nat) (st : Step) : nextOld (some a) st.printed = some ((a + st.counts Step.old? : Nat) : Int) := by
  cases st <;> simp [nextOld, Step.printed, Step.counts, Step.old?, Section.succ]

theorem nextNew_some (c : Nat) (st : Step) : nextNew (some c) st.printed = some ((c + st.counts Step.new? : Nat) : Int) := by
  cases st <;> simp [nextNew, Step.printed, Step.counts, Step.new?, Section.succ]

theorem numbered_remark (a c : Nat) (ls : List (List Char)) :
    numbered (some a) (some c) (remark :: ls) =
      ⟨.unchanged, String.ofList remark, some a, some c⟩ :: numbered (some (a + 1 : Nat)) (some (c + 1 : Nat)) ls := by
  have hplus : remark.head? ≠ some '+' := by decide
  have hminus : remark.head? ≠ some '-' := by decide
  simp [numbered, numberedLine, nextOld, nextNew, hplus, hminus, Section.succ]

/-- a step that is shown moves the counter of a side on which it has a line -/
theorem next_succ (start : Nat) (side : Step → Option (List Char)) {st : Step} (hfirst : h.first ≤ past.length) :
    h.next start side (past ++ st :: rest) (past.length + 1) =
      h.next start side (past ++ st :: rest) past.length + st.counts side := by
  have htake : (past ++ st :: rest).take (past.length + 1) = past ++ [st] := by
    rw [List.take_length_add_append]
    rfl
  unfold Hunk.next
  rw [htake, List.take_left, List.drop_append_of_le_length hfirst, List.filterMap_append, List.length_append]
  cases hside : side st <;> simp [Step.counts, hside, add_assoc]

theorem remarks_succ (hfirst : h.first ≤ i) :
    h.remarks marked (i + 1) = h.remarks marked i + if marked i then 1 else 0 := by
  rw [Hunk.remarks, Nat.count_succ]
  simp [hfirst, Hunk.remarks]

/-- the counters stand where the steps of the hunk and the remarks before them put them, so each step gets its true
numbers, moved by the remarks -/
theorem numbered_remarked (marked : Nat → Bool) (hscript : script = past ++ steps ++ rest) (hfirst : h.first ≤ past.length)
    (ha : a = h.next (h.block script).oldStart Step.old? script past.length)
    (hc : c = h.next (h.block script).newStart Step.new? script past.length) (hcounts : Counts past steps a c) :
    numbered (some (a + h.remarks marked past.length : Nat)) (some (c + h.remarks marked past.length : Nat))
        ((steps.zipIdx past.length).flatMap fun p => p.1.printed :: if marked p.2 then [remark] else []) =
      (steps.zipIdx past.length).flatMap fun p =>
        shift (trueLine script p) (h.remarks marked p.2) :: if marked p.2 then [h.remarkLine script marked p.2] else [] := by
  induction steps generalizing past a c with
  | nil => rfl
  | cons st steps ih =>
    have hscript' : script = past ++ [st] ++ steps ++ rest := by simp [hscript]
    have hcons : script = past ++ st :: (steps ++ rest) := by simp [hscript]
    have htrue : trueLine script (st, past.length) = st.line ((oldSide past).length + 1) ((newSide past).length + 1) := by
      simp [hscript, trueLine, oldNumber, newNumber]
    have ha' : a + st.counts Step.old? = h.next (h.block script).oldStart Step.old? script (past.length + 1) := by
      rw [ha]
      generalize (h.block script).oldStart = start
      rw [hcons, next_succ start Step.old? hfirst]
    have hc' : c + st.counts Step.new? = h.next (h.block script).newStart Step.new? script (past.length + 1) := by
      rw [hc]
      generalize (h.block script).newStart = start
      rw [hcons, next_succ start Step.new? hfirst]
    have hlength : (past ++ [st]).length = past.length + 1 := by simp
    have hrest := ih hscript' (hfirst.trans (by simp)) (by rw [hlength, ha']) (by rw [hlength, hc']) hcounts.step
    rw [hlength, remarks_succ hfirst] at hrest
    rw [List.zipIdx_cons, List.flatMap_cons, List.flatMap_cons, ← hrest, List.cons_append, List.cons_append, numbered,
      numberedLine_shift, numberedLine_printed hcounts, htrue, nextOld_some, nextNew_some]
    dsimp only
    rw [add_right_comm a, add_right_comm c]
    cases hmark : marked past.length with
    | false => simp
    | true =>
      -- the remark counts on both sides
      rw [if_pos rfl, if_pos rfl, List.singleton_append, List.singleton_append, numbered_remark, Hunk.remarkLine, ← ha',
        ← hc']
      rfl

theorem next_first (start : Nat) (side : Step → Option (List Char))  (script : List Step) (h : Hunk) :
    h.next start side script h.first = start := by
  have hdrop : (script.take h.first).drop h.first = [] := List.drop_eq_nil_of_le (by simp)
  rw [Hunk.next, hdrop]
  rfl

theorem remarks_first (marked : Nat → Bool) (h : Hunk) : h.remarks marked h.first = 0 := by
  rw [Hunk.remarks, Nat.count_iff_forall_not]
  rintro j hj ⟨hfirst, -⟩
  exact absurd hj (not_lt.2 hfirst)

/-- **The lines of a hunk with remarks** have their true numbers, moved by the remarks before them -/
theorem diffLines_remarkedBlock (hin : h.first + h.size ≤ script.length) (marked : Nat → Bool) :
    (h.remarkedBlock script marked).diffLines = h.remarkedLines script marked := by
  have hlength : (script.take h.first).length = h.first := List.length_take_of_le (by omega)
  have hnum := numbered_remarked marked (script_eq script h) (h := h) (by rw [hlength])
    (by rw [hlength, next_first]) (by rw [hlength, next_first]) (counts_start script h)
  rw [hlength, remarks_first, Nat.add_zero, Nat.add_zero, ← shown_eq hin] at hnum
  rw [Block.diffLines, Hunk.remarkedLines, ← hnum]
  rfl

/-! ## Sections -/

theorem body_remarkedBlock (hin : h.first + h.size ≤ script.length) (marked : Nat → Bool) {l : List Char}
    (hl : l ∈ (h.remarkedBlock script marked).body) : l ∈ (h.block script).body ∨ l = remark := by
  obtain ⟨⟨st, i⟩, hmem, hl⟩ := List.mem_flatMap.1 hl
  rcases List.mem_cons.1 hl with rfl | hl
  · rw [shown_eq hin] at hmem
    exact Or.inl (List.mem_map_of_mem (List.fst_mem_of_mem_zipIdx hmem))
  · split at hl
    · exact Or.inr (List.mem_singleton.1 hl)
    · cases hl

theorem printed_remarkedBlock {p : Remarked} {b : Block} (hb : b ∈ p.blocks) : b.Printed := by
  obtain ⟨k, hk, rfl⟩ := List.mem_map.1 hb
  have hplain := printed_blocks p.patch (k.block p.patch.script) (List.mem_map_of_mem hk)
  have hin := p.patch.within k hk
  refine ⟨hplain.heading_line, fun l hl => ?_, fun l hl => ?_⟩
  · rcases body_remarkedBlock hin p.marked hl with hl | rfl
    · exact hplain.body_line l hl
    · decide
  · rcases body_remarkedBlock hin p.marked hl with hl | rfl
    · exact hplain.body_prefix l hl
    · exact ⟨'\\', by decide, rfl⟩

theorem blocks_eq_nil_iff (p : Remarked) : p.blocks = [] ↔ p.patch.blocks = [] := by
  rw [Remarked.blocks, Patch.blocks, List.map_eq_nil_iff, List.map_eq_nil_iff]

theorem headerLines_blocks (p : Remarked) : p.patch.top.headerLines p.blocks = p.patch.top.headerLines p.patch.blocks :=
  headerLines_congr p.patch.top (blocks_eq_nil_iff p)

/-! ## The other lines -/

theorem shift_zero (l : DiffLine) : shift l 0 = l := by
  unfold shift
  simp

/-- a step has a number on some side, so it cannot be moved unnoticed -/
theorem shift_trueLine (p : Step × Nat) (k : Nat) : shift (trueLine script p) k = trueLine script p ↔ k = 0 := by
  refine ⟨fun hsame => ?_, fun hk => by rw [hk, shift_zero]⟩
  obtain ⟨st, i⟩ := p
  cases st with
  | keep t => simpa [trueLine, Step.line, shift] using hsame
  | delete t => simpa [trueLine, Step.line, shift] using hsame
  | insert t => simpa [trueLine, Step.line, shift] using hsame

/-- a line that begins with another character is no remark -/
theorem isRemark_of_head {l : DiffLine} {c : Char} {cs : List Char} (hl : l.content = String.ofList (c :: cs))
    (hc : c ≠ '\\') : isRemark l = false := by
  rw [isRemark, hl, decide_eq_false_iff_not, String.ofList_inj]
  intro hsame
  exact hc (List.cons.inj hsame).1

theorem isRemark_trueLine (p : Step × Nat) : isRemark (trueLine script p) = false := by
  obtain ⟨st, i⟩ := p
  cases st with
  | keep t => exact isRemark_of_head (c := ' ') rfl (by decide)
  | delete t => exact isRemark_of_head (c := '-') rfl (by decide)
  | insert t => exact isRemark_of_head (c := '+') rfl (by decide)

theorem isRemark_header (b : Block) : isRemark ⟨.metadata, String.ofList b.header, none, none⟩ = false :=
  isRemark_of_head (c := '@') rfl (by decide)

theorem filter_diffLines (script : List Step) (h : Hunk) :
    ((h.diffLines script).filter fun l => !isRemark l) = h.diffLines script := by
  rw [Hunk.diffLines, List.filter_eq_self]
  intro l hl
  rcases List.mem_cons.1 hl with rfl | hl
  · rw [isRemark_header]
    rfl
  · obtain ⟨p, -, rfl⟩ := List.mem_map.1 hl
    rw [isRemark_trueLine]
    rfl

/-- but for the remarks the lines of a hunk are its steps, moved -/
theorem filter_remarkedLines (script : List Step) (marked : Nat → Bool) (h : Hunk) :
    ((h.remarkedLines script marked).filter fun l => !isRemark l) =
      ⟨.metadata, String.ofList (h.block script).header, none, none⟩ ::
        (h.shown script).map fun p => shift (trueLine script p) (h.remarks marked p.2) := by
  have hstep : ∀ p : Step × Nat,
      ((shift (trueLine script p) (h.remarks marked p.2) ::
        if marked p.2 then [h.remarkLine script marked p.2] else []).filter fun l => !isRemark l) =
        [shift (trueLine script p) (h.remarks marked p.2)] := by
    intro p
    have hline : isRemark (shift (trueLine script p) (h.remarks marked p.2)) = false := isRemark_trueLine p
    have hremark : isRemark (h.remarkLine script marked p.2) = true := decide_eq_true rfl
    cases marked p.2 <;> simp [hline, hremark]
  rw [Hunk.remarkedLines, List.filter_cons, isRemark_header, List.filter_flatMap]
  simp only [hstep, Bool.not_false, if_true, List.map_eq_flatMap]

/-- the steps of a hunk are where they were if and only if no remark stands before one of them -/
theorem others_eq_iff (hin : h.first + h.size ≤ script.length) (marked : Nat → Bool) :
    ((h.remarkedLines script marked).filter fun l => !isRemark l) = ((h.diffLines script).filter fun l => !isRemark l) ↔
      ∀ i, h.first ≤ i → i + 1 < h.first + h.size → marked i = false := by
  rw [filter_remarkedLines, filter_diffLines, Hunk.diffLines, List.cons_inj_right, List.map_inj_left]
  simp only [shift_trueLine]
  constructor
  · intro hnone i hfirst hlast
    obtain ⟨st, hmem⟩ := (mem_shown_iff hin).2 ⟨Nat.le_succ_of_le hfirst, hlast⟩
    have hcount := hnone _ hmem
    rw [Hunk.remarks, Nat.count_iff_forall_not] at hcount
    simpa [hfirst] using hcount i (Nat.lt_succ_self i)
  · rintro hends ⟨st, j⟩ hmem
    obtain ⟨hfirst, hlast⟩ := (mem_shown_iff hin).1 ⟨st, hmem⟩
    rw [Hunk.remarks, Nat.count_iff_forall_not]
    rintro i hij ⟨hi, hmark⟩
    rw [hends i hi (by omega)] at hmark
    cases hmark

/-- lists of parts of equal lengths are equal if and only if the parts are -/
theorem flatMap_inj {α β : Type} {f g : α → List β} {l : List α} (hlength : ∀ x ∈ l, (f x).length = (g x).length) :
    l.flatMap f = l.flatMap g ↔ ∀ x ∈ l, f x = g x := by
  refine ⟨fun heq => ?_, fun h => List.flatMap_congr h⟩
  induction l with
  | nil => nofun
  | cons x l ih =>
    rw [List.flatMap_cons, List.flatMap_cons] at heq
    obtain ⟨hx, hrest⟩ := List.append_inj heq (hlength x List.mem_cons_self)
    intro y hy
    rcases List.mem_cons.1 hy with rfl | hy
    · exact hx
    · exact ih (fun z hz => hlength z (List.mem_cons_of_mem x hz)) hrest y hy

/-! ## Diffs -/

theorem shifts_fileDiff (p : Remarked) :
    Shifts (p.patch.top.fileDiff p.patch.blocks) (p.patch.top.fileDiff p.blocks) p := by
  have hpaths := paths_fileDiff_congr p.patch.top (blocks_eq_nil_iff p)
  have hremarked : p.blocks.flatMap Block.diffLines =
      p.patch.hunks.flatMap (Hunk.remarkedLines p.patch.script p.marked) := by
    rw [Remarked.blocks, List.flatMap_map]
    exact List.flatMap_congr fun h hh => diffLines_remarkedBlock (p.patch.within h hh) p.marked
  have hplain : (p.patch.top.fileDiff p.patch.blocks).lines =
      numbered none none (p.patch.top.headerLines p.patch.blocks) ++
        p.patch.hunks.flatMap (Hunk.diffLines p.patch.script) := by
    rw [Top.fileDiff, diffLines_blocks]
  have hlines : (p.patch.top.fileDiff p.blocks).lines =
      numbered none none (p.patch.top.headerLines p.patch.blocks) ++
        p.patch.hunks.flatMap (Hunk.remarkedLines p.patch.script p.marked) := by
    rw [Top.fileDiff, hremarked, headerLines_blocks]
  refine ⟨hpaths.1, hpaths.2, ⟨_, hplain, hlines⟩, ?_⟩
  rw [hlines, hplain, List.filter_append, List.filter_append, List.append_cancel_left_eq, List.filter_flatMap,
    List.filter_flatMap, flatMap_inj]
  · exact forall₂_congr fun h hh => others_eq_iff (p.patch.within h hh) p.marked
  · intro h _
    rw [filter_remarkedLines, filter_diffLines, Hunk.diffLines, List.length_cons, List.length_cons, List.length_map,
      List.length_map]

/-- the lines of a diff with remarks are safe if those of the diff without them are -/
theorem safe_remarked {p : Remarked} (hsafe : ∀ l ∈ p.patch.lines, Framing.Safe l) : ∀ l ∈ p.lines, Framing.Safe l := by
  intro l hl
  rcases List.mem_cons.1 hl with rfl | hl
  · exact hsafe _ List.mem_cons_self
  have hinner : ∀ {l}, l ∈ p.patch.top.headerLines p.patch.blocks ++ p.patch.blocks.flatMap Block.lines →
      Framing.Safe l := fun hl => hsafe _ (List.mem_cons_of_mem _ hl)
  rcases List.mem_append.1 hl with hl | hl
  · rw [headerLines_blocks] at hl
    exact hinner (List.mem_append_left _ hl)
  · obtain ⟨b, hb, hl⟩ := List.mem_flatMap.1 hl
    obtain ⟨k, hk, rfl⟩ := List.mem_map.1 hb
    have hblock : k.block p.patch.script ∈ p.patch.blocks := List.mem_map_of_mem hk
    have hplain : ∀ l ∈ (k.block p.patch.script).lines, Framing.Safe l :=
      fun l hl => hinner (List.mem_append_right _ (List.mem_flatMap.2 ⟨_, hblock, hl⟩))
    rcases List.mem_cons.1 hl with rfl | hl
    · exact hplain _ List.mem_cons_self
    · rcases body_remarkedBlock (p.patch.within k hk) p.marked hl with hl | rfl
      · exact hplain _ (List.mem_cons_of_mem _ hl)
      · decide

theorem wellFormed_remarked {p : Remarked} (hreadable : p.patch.Readable) {b : Block} (hb : b ∈ p.blocks) : b.WellFormed := by
  obtain ⟨k, hk, rfl⟩ := List.mem_map.1 hb
  have hstarts := hreadable (k.block p.patch.script) (List.mem_map_of_mem hk)
  exact ⟨printed_remarkedBlock hb, hstarts.1, hstarts.2⟩

/-- **Remarks move the lines behind them.** A diff is read with remarks as it is without them, but for the remarks
themselves and for the numbers that they move. -/
theorem parse_remarked (ps : List Remarked) (hreadable : ∀ p ∈ ps, p.patch.Readable)
    (hsafe : ∀ p ∈ ps, ∀ l ∈ p.patch.lines, Framing.Safe l) :
    ∃ diffs : List (FileDiff × FileDiff),
      parse (Framing.frameLines (textOf (ps.flatMap fun p => p.patch.lines))) = .ok (diffs.map Prod.fst) ∧
        parse (Framing.frameLines (textOf (ps.flatMap Remarked.lines))) = .ok (diffs.map Prod.snd) ∧
        List.Forall₂ (fun d p => Describes d.1 p.patch ∧ Shifts d.1 d.2 p) diffs ps := by
  have hplain := parse_map_sections ps (fun p => p.patch.top) (fun p => p.patch.blocks)
    (fun p hp b hb => ⟨printed_blocks p.patch b hb, (hreadable p hp b hb).1, (hreadable p hp b hb).2⟩) hsafe
  have hremarked := parse_map_sections ps (fun p => p.patch.top) Remarked.blocks
    (fun p hp b hb => wellFormed_remarked (hreadable p hp) hb) fun p hp => safe_remarked (hsafe p hp)
  refine ⟨ps.map fun p => (p.patch.top.fileDiff p.patch.blocks, p.patch.top.fileDiff p.blocks), ?_, ?_, ?_⟩
  · rw [List.map_map]
    exact hplain
  · rw [List.map_map]
    exact hremarked
  · rw [List.forall₂_map_left_iff, List.forall₂_same]
    exact fun p _ => ⟨describes_fileDiff p.patch, shifts_fileDiff p⟩

/-- a file of one line without a break, and another line in its place -/
def unterminated : Remarked where
  patch :=
    { top := (appended 0).top
      old := [['a']]
      new := [['b']]
      script := [.delete ['a'], .insert ['b']]
      hunks := [⟨0, 2, []⟩]
      old_eq := by decide
      new_eq := by decide
      ordered := by decide
      within := by decide
      old_lines := by decide
      new_lines := by decide
      heading_lines := by decide }
  marked := fun _ => true

theorem readable_unterminated : unterminated.patch.Readable := by
  have hlimit : 1 < 10 ^ Number.digitLimit := Nat.one_lt_pow (by decide) (by decide)
  exact readable_of_length_lt hlimit hlimit

theorem safe_unterminated : ∀ l ∈ unterminated.patch.lines, Framing.Safe l := by decide

theorem parse_remarked_unterminated :
    (∀ p ∈ [unterminated], p.patch.Readable) ∧ (∀ p ∈ [unterminated], ∀ l ∈ p.patch.lines, Framing.Safe l) ∧
      ∃ diffs : List (FileDiff × FileDiff),
        parse (Framing.frameLines (textOf ([unterminated].flatMap fun p => p.patch.lines))) = .ok (diffs.map Prod.fst) ∧
          parse (Framing.frameLines (textOf ([unterminated].flatMap Remarked.lines))) = .ok (diffs.map Prod.snd) ∧
          List.Forall₂ (fun d p => Describes d.1 p.patch ∧ Shifts d.1 d.2 p) diffs [unterminated] := by
  have hreadable : ∀ p ∈ [unterminated], p.patch.Readable := by
    intro p hp
    rw [List.mem_singleton.1 hp]
    exact readable_unterminated
  have hsafe : ∀ p ∈ [unterminated], ∀ l ∈ p.patch.lines, Framing.Safe l := by
    intro p hp
    rw [List.mem_singleton.1 hp]
    exact safe_unterminated
  exact ⟨hreadable, hsafe, parse_remarked [unterminated] hreadable hsafe⟩

/-- **A remark moves the line behind it.** The first line of the new file was inserted, but it is found as the second one,
and numbers appear that neither file has. -/
theorem remarks_move_lines :
    textOf unterminated.lines =
        "diff --git a/f b/f\n--- a/f\n+++ b/f\n@@ -1 +1 @@\n-a\n\\ No newline at end of file\n+b\n\\ No newline at end of file\n" ∧
      Inserted unterminated.patch.script 1 ∧
      ∃ d, parse (Framing.frameLines (textOf unterminated.lines)) = .ok [d] ∧
        d.kindOf 1 = .unchanged ∧ d.kindOf 2 = .added ∧ d.numbers = [1, 2, 1, 2, 3, 3] := by
  have hparse := parse_map_sections [unterminated] (fun p => p.patch.top) Remarked.blocks
    (by
      intro p hp b hb
      rw [List.mem_singleton.1 hp] at hb
      exact wellFormed_remarked readable_unterminated hb)
    (by
      intro p hp
      rw [List.mem_singleton.1 hp]
      exact safe_remarked safe_unterminated)
  rw [List.flatMap_singleton] at hparse
  exact ⟨by decide, ⟨1, ['b'], rfl, rfl⟩, _, hparse, by decide, by decide, by decide⟩

end ChangeLint.Diff
