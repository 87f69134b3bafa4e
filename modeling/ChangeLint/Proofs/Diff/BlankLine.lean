/-
Blank lines without their space.

Version control can be told to print a blank line of both files without the space in front of it, so that the line is empty.
Framing keeps an empty line, but its record is empty, and such records are left out: the line is not read, nor counted.

A `BareBlock` is a block with the blank lines that are printed so. It is read as if they were not there
(`filter_lines_printed`); so each line behind a bare one has numbers that are too small, by the bare lines before it in its
block (`numbered_kept`).

Results:
- `parse_bare`: a diff with bare lines is read as the diff without them, but for that. The other lines keep their numbers if
  and only if no bare line has another line behind it in its block;
- `bare_line_moves_lines`: a blank line in the middle of a block moves the lines behind it.
-/
import ChangeLint.Proofs.Diff.Remark

namespace ChangeLint.Diff

/-! ## Bare lines -/

/-- a block, and which of its blank lines are printed without their space -/
structure BareBlock where
  block : Block
  bare : Nat → Bool
  blank : ∀ i, bare i = true → block.body[i]? = some [' ']

/-- a line with its numbers moved back -/
def back (l : DiffLine) (k : Nat) : DiffLine :=
  { l with oldNumber := l.oldNumber.map (· - (k : Int)), newNumber := l.newNumber.map (· - (k : Int)) }

namespace BareBlock

/-- the block as it is printed: bare lines are empty -/
def printed (b : BareBlock) : Block :=
  { b.block with body := b.block.body.zipIdx.map fun p => if b.bare p.2 then [] else p.1 }

/-- the block without its bare lines -/
def kept (b : BareBlock) : Block :=
  { b.block with body := (b.block.body.zipIdx.filter fun p => !b.bare p.2).map Prod.fst }

/-- the bare lines of the block before a place -/
def before (b : BareBlock) (i : Nat) : Nat := Nat.count (fun j => b.bare j = true) i

/-- the lines of the block as they are read when none is bare, each with its place -/
def numberedBody (b : BareBlock) : List (DiffLine × Nat) :=
  (numbered (some b.block.oldStart) (some b.block.newStart) b.block.body).zipIdx

/-- those of them that are not bare -/
def others (b : BareBlock) : List (DiffLine × Nat) := b.numberedBody.filter fun p => !b.bare p.2

/-- the header and the other lines, with their numbers -/
def otherLines (b : BareBlock) : List DiffLine :=
  ⟨.metadata, String.ofList b.block.header, none, none⟩ :: b.others.map Prod.fst

/-- the header and the other lines, each moved back by the bare lines before it -/
def movedLines (b : BareBlock) : List DiffLine :=
  ⟨.metadata, String.ofList b.block.header, none, none⟩ :: b.others.map fun p => back p.1 (b.before p.2)

/-- behind a bare line there are only bare ones -/
def EndsBare (b : BareBlock) : Prop :=
  ∀ i j, b.bare i = true → i < j → j < b.block.body.length → b.bare j = true

end BareBlock

/-- what bare lines do to the file diff of a section -/
structure Drops (plain d : FileDiff) (blocks : List BareBlock) : Prop where
  oldPath : d.oldPath = plain.oldPath
  newPath : d.newPath = plain.newPath
  /-- the bare lines are not read and move the lines behind them, unless there are none -/
  lines : ∃ top, plain.lines = top ++ blocks.flatMap (fun b => b.block.diffLines) ∧
    d.lines = top ++ blocks.flatMap BareBlock.movedLines ∧
    (d.lines = top ++ blocks.flatMap BareBlock.otherLines ↔ ∀ b ∈ blocks, b.EndsBare)

variable {b : BareBlock} {blocks : List BareBlock} {t : Top} {ls : List (List Char)} {l : List Char}

/-! ## Numbers -/

theorem nextOld_int (a : Int) (l : List Char) : nextOld (some a) l = some (a + if l.head? = some '+' then 0 else 1) := by
  unfold nextOld
  split_ifs <;> simp [Section.succ]

theorem nextNew_int (c : Int) (l : List Char) : nextNew (some c) l = some (c + if l.head? = some '-' then 0 else 1) := by
  unfold nextNew
  split_ifs <;> simp [Section.succ]

theorem numberedLine_back (a c : Int) (k : Nat) (l : List Char) :
    numberedLine (some (a - k)) (some (c - k)) l = back (numberedLine (some a) (some c) l) k := by
  unfold numberedLine back
  split_ifs <;> simp

/-- the counters lag behind by the bare lines, which are left out though they count on both sides -/
theorem numbered_kept {bare : Nat → Bool} {i : Nat} {a c : Int} (h : ∀ p ∈ ls.zipIdx i, bare p.2 = true → p.1 = [' ']) :
    numbered (some (a - Nat.count (fun j => bare j = true) i)) (some (c - Nat.count (fun j => bare j = true) i))
        (((ls.zipIdx i).filter fun p => !bare p.2).map Prod.fst) =
      (((numbered (some a) (some c) ls).zipIdx i).filter fun p => !bare p.2).map
        fun p => back p.1 (Nat.count (fun j => bare j = true) p.2) := by
  induction ls generalizing i a c with
  | nil => rfl
  | cons l ls ih =>
    rw [List.zipIdx_cons] at h
    have hrest := fun a c => @ih (i + 1) a c fun p hp => h p (List.mem_cons_of_mem _ hp)
    simp only [Nat.count_succ] at hrest
    rw [List.zipIdx_cons, numbered, List.zipIdx_cons, nextOld_int, nextNew_int]
    cases hbare : bare i with
    | true =>
      have hl : l = [' '] := h (l, i) List.mem_cons_self hbare
      rw [List.filter_cons_of_neg (by simp [hbare]), List.filter_cons_of_neg (by simp [hbare]), ← hrest, hl]
      simp [hbare]
    | false =>
      rw [List.filter_cons_of_pos (by simp [hbare]), List.filter_cons_of_pos (by simp [hbare]), List.map_cons, List.map_cons,
        numbered, numberedLine_back, nextOld_int, nextNew_int, ← hrest]
      simp [hbare, sub_add_eq_add_sub]

theorem length_numbered (a c : Option Int) (ls : List (List Char)) : (numbered a c ls).length = ls.length := by
  simpa using congrArg List.length (content_numbered a c ls)

/-- a line of a block has a number on some side -/
theorem exists_number {a c : Int} {d : DiffLine} (h : d ∈ numbered (some a) (some c) ls) :
    d.oldNumber ≠ none ∨ d.newNumber ≠ none := by
  induction ls generalizing a c with
  | nil => cases h
  | cons l ls ih =>
    rw [numbered, nextOld_int, nextNew_int, List.mem_cons] at h
    rcases h with rfl | h
    · unfold numberedLine
      split_ifs <;> simp
    · exact ih h

/-- so it cannot be moved unnoticed -/
theorem back_eq_self_iff {d : DiffLine} (h : d.oldNumber ≠ none ∨ d.newNumber ≠ none) (k : Nat) : back d k = d ↔ k = 0 := by
  obtain ⟨kind, content, old, new⟩ := d
  cases old <;> cases new <;> simp_all [back]

/-! ## Blocks -/

theorem diffLines_kept (b : BareBlock) : b.kept.diffLines = b.movedLines := by
  have hblank : ∀ p ∈ b.block.body.zipIdx 0, b.bare p.2 = true → p.1 = [' '] := by
    rintro ⟨l, i⟩ hp hbare
    rw [List.mem_zipIdx_iff_getElem?] at hp
    simpa [b.blank i hbare] using hp.symm
  have hnum := @numbered_kept b.block.body b.bare 0 b.block.oldStart b.block.newStart hblank
  rw [Nat.count_zero, Nat.cast_zero, Int.sub_zero, Int.sub_zero] at hnum
  rw [Block.diffLines, BareBlock.movedLines]
  exact congrArg _ hnum

/-- the other lines are where they were if and only if no bare line stands before one of them -/
theorem movedLines_eq_iff (b : BareBlock) : b.movedLines = b.otherLines ↔ b.EndsBare := by
  rw [BareBlock.movedLines, BareBlock.otherLines, List.cons_inj_right, List.map_inj_left]
  constructor
  · intro hsame i j hi hij hj
    by_contra hbare
    have hlength : j < (numbered (some b.block.oldStart) (some b.block.newStart) b.block.body).length := by
      rwa [length_numbered]
    have hmem : ((numbered (some b.block.oldStart) (some b.block.newStart) b.block.body)[j], j) ∈ b.others := by
      rw [BareBlock.others, List.mem_filter, BareBlock.numberedBody, List.mem_zipIdx_iff_getElem?]
      exact ⟨List.getElem?_eq_getElem hlength, by simpa using hbare⟩
    have hzero := (back_eq_self_iff (exists_number (List.getElem_mem hlength)) _).1 (hsame _ hmem)
    rw [BareBlock.before, Nat.count_iff_forall_not] at hzero
    exact hzero i hij hi
  · rintro hends ⟨d, j⟩ hp
    rw [BareBlock.others, List.mem_filter, BareBlock.numberedBody, List.mem_zipIdx_iff_getElem?] at hp
    obtain ⟨hd, hbare⟩ := hp
    have hj : j < b.block.body.length := by
      rw [← length_numbered (some b.block.oldStart) (some b.block.newStart)]
      exact (List.getElem?_eq_some_iff.1 hd).1
    refine (back_eq_self_iff (exists_number (List.mem_of_getElem? hd)) _).2 ?_
    rw [BareBlock.before, Nat.count_iff_forall_not]
    intro i hij hi
    rw [hends i j hi hij hj] at hbare
    cases hbare

/-! ## Lines as they are printed and read -/

theorem map_eq_nil_iff_map (f g : BareBlock → Block) (blocks : List BareBlock) : blocks.map f = [] ↔ blocks.map g = [] := by
  rw [List.map_eq_nil_iff, List.map_eq_nil_iff]

theorem headerLines_map (t : Top) (f g : BareBlock → Block) (blocks : List BareBlock) :
    t.headerLines (blocks.map f) = t.headerLines (blocks.map g) := headerLines_congr t (map_eq_nil_iff_map f g blocks)

theorem fst_mem_body {p : List Char × Nat} (h : p ∈ b.block.body.zipIdx) : p.1 ∈ b.block.body :=
  List.fst_mem_of_mem_zipIdx h

/-- every line that is printed is one of the block, or it is empty -/
theorem mem_lines_printed (h : l ∈ b.printed.lines) : l ∈ b.block.lines ∨ l = [] := by
  rcases List.mem_cons.1 h with rfl | h
  · exact Or.inl List.mem_cons_self
  · obtain ⟨p, hp, rfl⟩ := List.mem_map.1 h
    split
    · exact Or.inr rfl
    · exact Or.inl (List.mem_cons_of_mem _ (fst_mem_body hp))

theorem mem_lines_kept (h : l ∈ b.kept.lines) : l ∈ b.block.lines := by
  rcases List.mem_cons.1 h with rfl | h
  · exact List.mem_cons_self
  · obtain ⟨p, hp, rfl⟩ := List.mem_map.1 h
    exact List.mem_cons_of_mem _ (fst_mem_body (List.mem_of_mem_filter hp))

/-- a line of a section with bare lines is one of the section without them, or it is empty -/
theorem mem_lines_of_mem {f : BareBlock → Block} (h : ∀ b ∈ blocks, ∀ l ∈ (f b).lines, l ∈ b.block.lines ∨ l = [])
    (hl : l ∈ t.lines (blocks.map f)) : l ∈ t.lines (blocks.map BareBlock.block) ∨ l = [] := by
  rw [Top.lines, headerLines_map t f BareBlock.block, List.mem_cons, List.mem_append, List.flatMap_map, List.mem_flatMap] at hl
  rw [Top.lines, List.mem_cons, List.mem_append, List.flatMap_map, List.mem_flatMap]
  rcases hl with hl | hl | ⟨b, hb, hl⟩
  · exact Or.inl (Or.inl hl)
  · exact Or.inl (Or.inr (Or.inl hl))
  · exact (h b hb l hl).imp_left fun hl => Or.inr (Or.inr ⟨b, hb, hl⟩)

theorem wellFormed_kept (h : b.block.WellFormed) : b.kept.WellFormed := by
  have hmem : ∀ l ∈ b.kept.body, l ∈ b.block.body := by
    intro l hl
    obtain ⟨p, hp, rfl⟩ := List.mem_map.1 hl
    exact fst_mem_body (List.mem_of_mem_filter hp)
  exact ⟨⟨h.heading_line, fun l hl => h.body_line l (hmem l hl), fun l hl => h.body_prefix l (hmem l hl)⟩, h.oldStart_lt,
    h.newStart_lt⟩

/-- the lines of a block with bare lines, less the empty ones, are those that are not bare -/
theorem filter_lines_printed (h : b.block.Printed) : (b.printed.lines.filter fun l => !l.isEmpty) = b.kept.lines := by
  have hempty : ∀ p ∈ b.block.body.zipIdx, (!(if b.bare p.2 then [] else p.1).isEmpty) = !b.bare p.2 := by
    intro p hp
    obtain ⟨c, -, hc⟩ := h.body_prefix p.1 (fst_mem_body hp)
    have hne : p.1 ≠ [] := by
      rintro hnil
      rw [hnil] at hc
      cases hc
    cases b.bare p.2 <;> simp [hne]
  have hbody : (b.printed.body.filter fun l => !l.isEmpty) = b.kept.body := by
    rw [BareBlock.printed, BareBlock.kept, List.filter_map]
    simp only [Function.comp_def]
    rw [List.filter_congr hempty]
    refine List.map_congr_left fun p hp => ?_
    have hbare : b.bare p.2 = false := by simpa using (List.mem_filter.1 hp).2
    rw [hbare, if_neg Bool.false_ne_true]
  rw [Block.lines, Block.lines, List.filter_cons_of_pos rfl, hbody]
  rfl

theorem filter_lines (h : ∀ b ∈ blocks, b.block.Printed) (t : Top) :
    ((t.lines (blocks.map BareBlock.printed)).filter fun l => !l.isEmpty) = t.lines (blocks.map BareBlock.kept) := by
  have hplain : ∀ b' ∈ blocks.map BareBlock.block, b'.Printed := by
    intro b' hb'
    obtain ⟨b, hb, rfl⟩ := List.mem_map.1 hb'
    exact h b hb
  have hne : ∀ l ∈ t.title :: t.headerLines (blocks.map BareBlock.block), (!l.isEmpty) = true := by
    intro l hl
    have hmem : l ∈ t.lines (blocks.map BareBlock.block) := List.mem_append_left _ hl
    simpa using (line_of_mem_lines hplain hmem).1
  have hblocks : (((blocks.map BareBlock.printed).flatMap Block.lines).filter fun l => !l.isEmpty) =
      (blocks.map BareBlock.kept).flatMap Block.lines := by
    rw [List.filter_flatMap, List.flatMap_map, List.flatMap_map]
    exact List.flatMap_congr fun b hb => filter_lines_printed (h b hb)
  rw [Top.lines, Top.lines, headerLines_map t BareBlock.printed BareBlock.block,
    headerLines_map t BareBlock.kept BareBlock.block, ← List.cons_append, List.filter_append, hblocks,
    List.filter_eq_self.2 hne, List.cons_append]

/-! ## Diffs -/

/-- a diff is read as if its empty lines were not there -/
theorem parse_nonempty (hsafe : ∀ l ∈ ls, Framing.Safe l) (hbreak : ∀ l ∈ ls, '\n' ∉ l) :
    parse (Framing.frameLines (textOf ls)) = parse (Framing.frameLines (textOf (ls.filter fun l => !l.isEmpty))) := by
  have hrecords : Framing.recordsOf (Framing.frameLines (textOf ls)).toList = ls.filter fun l => !l.isEmpty := by
    rw [Framing.toList_frameLines, textOf, String.toList_ofList, Framing.linesOf_flatMap hbreak,
      Framing.recordsOf_framed hsafe fun l hl => Framing.dropBreak_of_not_mem (hbreak l hl)]
  rw [parse, parse, hrecords, textOf, Framing.recordsOf_frameLines]
  · exact fun l hl => hsafe l (List.mem_of_mem_filter hl)
  · exact fun l hl => hbreak l (List.mem_of_mem_filter hl)
  · exact fun l hl => by simpa using (List.mem_filter.1 hl).2

/-- sections with a space for every blank line -/
theorem parse_blocks (sections : List (Top × List BareBlock)) (hwf : ∀ s ∈ sections, ∀ b ∈ s.2, b.block.WellFormed)
    (hsafe : ∀ s ∈ sections, ∀ l ∈ s.1.lines (s.2.map BareBlock.block), Framing.Safe l) :
    parse (Framing.frameLines (textOf (sections.flatMap fun s => s.1.lines (s.2.map BareBlock.block)))) =
      .ok (sections.map fun s => s.1.fileDiff (s.2.map BareBlock.block)) := by
  refine parse_map_sections sections (fun s => s.1) (fun s => s.2.map BareBlock.block) (fun s hs b hb => ?_) hsafe
  obtain ⟨k, hk, rfl⟩ := List.mem_map.1 hb
  exact hwf s hs k hk

/-- sections with bare lines are read as if these were not there -/
theorem parse_printed (sections : List (Top × List BareBlock)) (hwf : ∀ s ∈ sections, ∀ b ∈ s.2, b.block.WellFormed)
    (hsafe : ∀ s ∈ sections, ∀ l ∈ s.1.lines (s.2.map BareBlock.block), Framing.Safe l) :
    parse (Framing.frameLines (textOf (sections.flatMap fun s => s.1.lines (s.2.map BareBlock.printed)))) =
      .ok (sections.map fun s => s.1.fileDiff (s.2.map BareBlock.kept)) := by
  have hprinted : ∀ s ∈ sections, ∀ b ∈ s.2, b.block.Printed := fun s hs b hb => (hwf s hs b hb).toPrinted
  have hline : ∀ l ∈ sections.flatMap fun s => s.1.lines (s.2.map BareBlock.printed), Framing.Safe l ∧ '\n' ∉ l := by
    intro l hl
    obtain ⟨s, hs, hl⟩ := List.mem_flatMap.1 hl
    rcases mem_lines_of_mem (fun b _ l => mem_lines_printed) hl with hl | rfl
    · have hplain : ∀ b ∈ s.2.map BareBlock.block, b.Printed := by simpa using hprinted s hs
      exact ⟨hsafe s hs l hl, (line_of_mem_lines hplain hl).2⟩
    · exact ⟨Framing.safe_nil, List.not_mem_nil⟩
  have hfilter : ((sections.flatMap fun s => s.1.lines (s.2.map BareBlock.printed)).filter fun l => !l.isEmpty) =
      sections.flatMap fun s => s.1.lines (s.2.map BareBlock.kept) := by
    rw [List.filter_flatMap]
    exact List.flatMap_congr fun s hs => filter_lines (hprinted s hs) s.1
  rw [parse_nonempty (fun l hl => (hline l hl).1) fun l hl => (hline l hl).2, hfilter]
  refine parse_map_sections sections (fun s => s.1) (fun s => s.2.map BareBlock.kept) ?_ ?_
  · intro s hs b hb
    obtain ⟨k, hk, rfl⟩ := List.mem_map.1 hb
    exact wellFormed_kept (hwf s hs k hk)
  · intro s hs l hl
    rcases mem_lines_of_mem (fun b _ l hl => Or.inl (mem_lines_kept hl)) hl with hl | rfl
    · exact hsafe s hs l hl
    · exact Framing.safe_nil

theorem drops_fileDiff (t : Top) (blocks : List BareBlock) :
    Drops (t.fileDiff (blocks.map BareBlock.block)) (t.fileDiff (blocks.map BareBlock.kept)) blocks := by
  have hheader := headerLines_map t BareBlock.kept BareBlock.block blocks
  have hpaths := paths_fileDiff_congr t (map_eq_nil_iff_map BareBlock.kept BareBlock.block blocks)
  have hplain : (t.fileDiff (blocks.map BareBlock.block)).lines =
      numbered none none (t.headerLines (blocks.map BareBlock.block)) ++ blocks.flatMap fun b => b.block.diffLines := by
    rw [Top.fileDiff, List.flatMap_map]
  have hmoved : (t.fileDiff (blocks.map BareBlock.kept)).lines =
      numbered none none (t.headerLines (blocks.map BareBlock.block)) ++ blocks.flatMap BareBlock.movedLines := by
    rw [Top.fileDiff, hheader, List.flatMap_map]
    exact congrArg _ (List.flatMap_congr fun b _ => diffLines_kept b)
  refine ⟨hpaths.1, hpaths.2, _, hplain, hmoved, ?_⟩
  rw [hmoved, List.append_cancel_left_eq, flatMap_inj]
  · exact forall₂_congr fun b _ => movedLines_eq_iff b
  · intro b _
    rw [BareBlock.movedLines, BareBlock.otherLines, List.length_cons, List.length_cons, List.length_map, List.length_map]

/-- **Bare lines move the lines behind them.** A diff whose blank lines are printed without their space is read as the diff
with it, but for two things: bare lines are not read, and each other line of a block has numbers that are too small by the
bare lines before it in the block. So the other lines are as they were exactly if no bare line has one of them behind it. -/
theorem parse_bare (sections : List (Top × List BareBlock)) (hwf : ∀ s ∈ sections, ∀ b ∈ s.2, b.block.WellFormed)
    (hsafe : ∀ s ∈ sections, ∀ l ∈ s.1.lines (s.2.map BareBlock.block), Framing.Safe l) :
    ∃ diffs : List (FileDiff × FileDiff),
      parse (Framing.frameLines (textOf (sections.flatMap fun s => s.1.lines (s.2.map BareBlock.block)))) =
          .ok (diffs.map Prod.fst) ∧
        parse (Framing.frameLines (textOf (sections.flatMap fun s => s.1.lines (s.2.map BareBlock.printed)))) =
          .ok (diffs.map Prod.snd) ∧
        List.Forall₂ (fun d s => Drops d.1 d.2 s.2) diffs sections := by
  refine ⟨sections.map fun s => (s.1.fileDiff (s.2.map BareBlock.block), s.1.fileDiff (s.2.map BareBlock.kept)), ?_, ?_, ?_⟩
  · rw [List.map_map]
    exact parse_blocks sections hwf hsafe
  · rw [List.map_map]
    exact parse_printed sections hwf hsafe
  · rw [List.forall₂_map_left_iff, List.forall₂_same]
    exact fun s _ => drops_fileDiff s.1 s.2

/-- two lines in place of two, around a blank line that is printed without its space -/
def spaced : BareBlock where
  block := ⟨1, 4, 1, 4, [], ["-a".toList, "-b".toList, " ".toList, "+c".toList, "+d".toList, " e".toList]⟩
  bare := fun i => i = 2
  blank := by
    intro i hi
    rw [of_decide_eq_true hi]
    rfl

/-- a block that ends with such a line -/
def closing : BareBlock where
  block := ⟨7, 1, 7, 2, [], ["+x".toList, " ".toList]⟩
  bare := fun i => i = 1
  blank := by
    intro i hi
    rw [of_decide_eq_true hi]
    rfl

def spacedSections : List (Top × List BareBlock) := [((appended 0).top, [spaced]), (awkwardTop, [spaced, closing])]

theorem wellFormed_spacedSections : ∀ s ∈ spacedSections, ∀ b ∈ s.2, b.block.WellFormed := by
  have hlimit {n : Nat} (h : n < 10) : n < 10 ^ Number.digitLimit := h.trans_le (Nat.le_self_pow (by decide) 10)
  have hany : ∀ b ∈ [spaced, closing], ∀ l ∈ b.block.body, (bodyPrefixes.any fun c => l.head? = some c) = true := by
    decide
  have hprefix : ∀ b ∈ [spaced, closing], ∀ l ∈ b.block.body, ∃ c ∈ bodyPrefixes, l.head? = some c := by
    intro b hb l hl
    obtain ⟨c, hc, hhead⟩ := List.any_eq_true.1 (hany b hb l hl)
    exact ⟨c, hc, of_decide_eq_true hhead⟩
  have hblock : ∀ b ∈ [spaced, closing], b.block.WellFormed := by
    intro b hb
    have hb' := hprefix b hb
    rcases List.mem_pair.1 hb with rfl | rfl
    · exact ⟨⟨by decide, by decide, hb'⟩, hlimit (by decide), hlimit (by decide)⟩
    · exact ⟨⟨by decide, by decide, hb'⟩, hlimit (by decide), hlimit (by decide)⟩
  intro s hs b hb
  rcases List.mem_pair.1 hs with rfl | rfl
  · exact hblock b (List.mem_cons.2 (Or.inl (List.mem_singleton.1 hb)))
  · exact hblock b hb

theorem safe_spacedSections :
    ∀ s ∈ spacedSections, ∀ l ∈ s.1.lines (s.2.map BareBlock.block), Framing.Safe l := by decide

theorem parse_bare_spacedSections :
    (∀ s ∈ spacedSections, ∀ b ∈ s.2, b.block.WellFormed) ∧
      (∀ s ∈ spacedSections, ∀ l ∈ s.1.lines (s.2.map BareBlock.block), Framing.Safe l) ∧
      ∃ diffs : List (FileDiff × FileDiff),
        parse (Framing.frameLines (textOf (spacedSections.flatMap fun s => s.1.lines (s.2.map BareBlock.block)))) =
            .ok (diffs.map Prod.fst) ∧
          parse (Framing.frameLines (textOf (spacedSections.flatMap fun s => s.1.lines (s.2.map BareBlock.printed)))) =
            .ok (diffs.map Prod.snd) ∧
          List.Forall₂ (fun d s => Drops d.1 d.2 s.2) diffs spacedSections :=
  ⟨wellFormed_spacedSections, safe_spacedSections,
    parse_bare spacedSections wellFormed_spacedSections safe_spacedSections⟩

/-- **A bare line moves the lines behind it.** The last line of a block is the fourth one of both files, and so it is read
if the blank line before it has its space; if that line is empty, it is read as the third one. -/
theorem bare_line_moves_lines :
    textOf ((appended 0).top.lines [spaced.block]) =
        "diff --git a/f b/f\n--- a/f\n+++ b/f\n@@ -1,4 +1,4 @@\n-a\n-b\n \n+c\n+d\n e\n" ∧
      textOf ((appended 0).top.lines [spaced.printed]) =
        "diff --git a/f b/f\n--- a/f\n+++ b/f\n@@ -1,4 +1,4 @@\n-a\n-b\n\n+c\n+d\n e\n" ∧
      ∃ plain d, parse (Framing.frameLines (textOf ((appended 0).top.lines [spaced.block]))) = .ok [plain] ∧
        parse (Framing.frameLines (textOf ((appended 0).top.lines [spaced.printed]))) = .ok [d] ∧
        plain.lines.getLast? = some ⟨.unchanged, " e", some 4, some 4⟩ ∧
        d.lines.getLast? = some ⟨.unchanged, " e", some 3, some 3⟩ ∧ plain.numbers = [1, 2, 3, 1, 2, 3, 4, 4] ∧
        d.numbers = [1, 2, 1, 2, 3, 3] := by
  have hmem : ∀ s ∈ [((appended 0).top, [spaced])], s ∈ spacedSections := fun s hs =>
    List.mem_cons.2 (Or.inl (List.mem_singleton.1 hs))
  have hwf := fun s hs => wellFormed_spacedSections s (hmem s hs)
  have hsafe := fun s hs => safe_spacedSections s (hmem s hs)
  have hplain := parse_blocks [((appended 0).top, [spaced])] hwf hsafe
  have hbare := parse_printed [((appended 0).top, [spaced])] hwf hsafe
  rw [List.flatMap_singleton] at hplain hbare
  exact ⟨by decide, by decide, _, _, hplain, hbare, by decide, by decide, by decide, by decide⟩

end ChangeLint.Diff
