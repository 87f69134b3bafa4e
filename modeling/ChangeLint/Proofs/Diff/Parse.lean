/-
Reading what version control prints.

The lines of a diff hold no line break and are not empty, and of the lines of a section the first alone begins with a
section mark, the first of a block alone with a hunk mark. So a diff is read section by section, each as its `fileDiff`
(`parse_sections`).

`parse_section`: the paths that are read of a section with blocks are those of the file, however they are quoted.
-/
import ChangeLint.Proofs.Diff.Header
import ChangeLint.Proofs.Diff.Numbering
import ChangeLint.Proofs.Framing

namespace ChangeLint.Diff

/-! ## Printed lines -/

/-- lines of a section behind its title -/
structure IsInnerLine (l : List Char) : Prop where
  nonempty : l ≠ []
  line : '\n' ∉ l
  no_section : ¬ sectionMark <+: l

/-- lines between the title of a section and its blocks -/
structure IsHeaderLine (l : List Char) : Prop extends IsInnerLine l where
  no_hunk : ¬ hunkMark <+: l

/-- the first character tells a line from those that begin with a mark -/
theorem not_prefix_of_head {m l : List Char} {c : Char} (hm : m ≠ []) (hc : m.head? ≠ some c)
    (hhead : l.head? = some c) : ¬ m <+: l := by
  rintro ⟨rest, rfl⟩
  rw [List.head?_append_of_ne_nil m hm] at hhead
  exact hc hhead

theorem isInnerLine_of_head {l : List Char} {c : Char} (hc : sectionMark.head? ≠ some c) (hhead : l.head? = some c)
    (hline : '\n' ∉ l) : IsInnerLine l := by
  refine ⟨?_, hline, not_prefix_of_head (by decide) hc hhead⟩
  rintro rfl
  cases hhead

theorem isHeaderLine_of_head {l : List Char} {c : Char} (hc : sectionMark.head? ≠ some c)
    (hc' : hunkMark.head? ≠ some c) (hhead : l.head? = some c) (hline : '\n' ∉ l) : IsHeaderLine l :=
  ⟨isInnerLine_of_head hc hhead hline, not_prefix_of_head (by decide) hc' hhead⟩

theorem isHeaderLine_of_plain {l : List Char} (h : IsPlain l) : IsHeaderLine l :=
  ⟨⟨h.nonempty, h.line, h.unmarked _ (.head _)⟩, h.unmarked _ (.tail _ (.head _))⟩

theorem break_not_mem_markerName (side : Char) (path : List Char) : '\n' ∉ markerName side path := by
  have hname := break_not_mem_nameText (side :: '/' :: path)
  unfold markerName
  simp only
  split
  · simpa using hname
  · exact hname

theorem isHeaderLine_of_mem_renameLines {t : Top} {l : List Char} (h : l ∈ t.renameLines) : IsHeaderLine l := by
  have hname (mark path : List Char) (hmark : '\n' ∉ mark) : '\n' ∉ mark ++ nameText path := by
    rw [List.mem_append, not_or]
    exact ⟨hmark, break_not_mem_nameText path⟩
  unfold Top.renameLines at h
  split at h
  · rename_i old new _
    rw [List.mem_cons, List.mem_singleton] at h
    rcases h with rfl | rfl
    · exact isHeaderLine_of_head (c := 'r') (by decide) (by decide) rfl (hname _ old (by decide))
    · exact isHeaderLine_of_head (c := 'r') (by decide) (by decide) rfl (hname _ new (by decide))
  · cases h

theorem isHeaderLine_of_mem_markerLines {t : Top} {l : List Char} (h : l ∈ t.markerLines) : IsHeaderLine l := by
  have hname (mark : List Char) (hmark : '\n' ∉ mark) (there : Bool) (side : Char) (path : List Char) :
      '\n' ∉ mark ++ if there then markerName side path else nullPath := by
    rw [List.mem_append, not_or]
    refine ⟨hmark, ?_⟩
    split
    · exact break_not_mem_markerName side path
    · decide
  rw [Top.markerLines, List.mem_cons, List.mem_singleton] at h
  rcases h with rfl | rfl
  · exact isHeaderLine_of_head (c := '-') (by decide) (by decide) rfl (hname _ (by decide) _ _ _)
  · exact isHeaderLine_of_head (c := '+') (by decide) (by decide) rfl (hname _ (by decide) _ _ _)

theorem isHeaderLine_of_mem {t : Top} {blocks : List Block} {l : List Char} (h : l ∈ t.headerLines blocks) :
    IsHeaderLine l := by
  rw [Top.headerLines, List.mem_append, List.mem_append, List.mem_append] at h
  rcases h with ((h | h) | h) | h
  · exact isHeaderLine_of_plain (t.plain l (List.mem_append_left _ h))
  · exact isHeaderLine_of_mem_renameLines h
  · exact isHeaderLine_of_plain (t.plain l (List.mem_append_right _ h))
  · split at h
    · cases h
    · exact isHeaderLine_of_mem_markerLines h

/-- but for a comma a range holds digits only -/
theorem not_mem_range {c : Char} (hc : Text.isDigit c = false) (hcomma : c ≠ ',') (start count : Nat) :
    c ∉ Block.range start count := by
  have hdigits (n : Nat) : c ∉ Nat.toDigits 10 n := fun h => by
    rw [Text.isDigit_of_mem_toDigits h] at hc
    cases hc
  unfold Block.range
  split
  · simpa using hdigits start
  · simpa using ⟨hdigits start, hcomma, hdigits count⟩

/-- characters that a header has only in its heading -/
theorem not_mem_header {b : Block} {c : Char} (hc : Text.isDigit c = false) (hmark : c ∉ "@@ -+,".toList)
    (hheading : c ∉ b.heading) : c ∉ b.header := by
  have hsub (m : List Char) (hm : m ⊆ "@@ -+,".toList) : c ∉ m := fun h => hmark (hm h)
  have hcomma : c ≠ ',' := by
    rintro rfl
    exact hmark (by decide)
  simp only [Block.header, List.mem_append, not_or]
  exact ⟨hsub _ (by decide), not_mem_range hc hcomma _ _, hsub _ (by decide), not_mem_range hc hcomma _ _,
    hsub _ (by decide), hheading⟩

theorem isInnerLine_of_mem {b : Block} (hb : b.Printed) {l : List Char} (h : l ∈ b.lines) : IsInnerLine l := by
  rcases List.mem_cons.1 h with rfl | h
  · exact isInnerLine_of_head (c := '@') (by decide) rfl (not_mem_header (by decide) (by decide) hb.heading_line)
  · obtain ⟨c, hc, hhead⟩ := hb.body_prefix l h
    have hd : sectionMark.head? ≠ some c := by
      rintro hd
      cases hd
      exact absurd hc (by decide)
    exact isInnerLine_of_head hd hhead (hb.body_line l h)

/-! ## Sections -/

/-- what is read of a section -/
def Top.fileDiff (t : Top) (blocks : List Block) : FileDiff where
  oldPath := String.ofList (t.paths blocks).old
  newPath := String.ofList (t.paths blocks).new
  lines := numbered none none (t.headerLines blocks) ++ blocks.flatMap Block.diffLines

variable {blocks blocks' : List Block}

/-- the top of a section only asks whether there are blocks -/
theorem headerLines_congr (t : Top) (h : blocks = [] ↔ blocks' = []) : t.headerLines blocks = t.headerLines blocks' := by
  simp only [Top.headerLines, h]

theorem paths_fileDiff_congr (t : Top) (h : blocks = [] ↔ blocks' = []) :
    (t.fileDiff blocks).oldPath = (t.fileDiff blocks').oldPath ∧
      (t.fileDiff blocks).newPath = (t.fileDiff blocks').newPath := by
  simp only [Top.fileDiff, Top.paths, headerLines_congr t h, and_self]

theorem opened_title (t : Top) :
    Section.opened t.title =
      ⟨⟨(headerPaths t.title).1, (headerPaths t.title).2⟩, true, none, none, #[]⟩ := by
  have hne : (headerPaths t.title).1 ≠ [] := headerPaths_title_fst t.old_ne t.naming.new
  have hold : (headerPaths t.title).1.isEmpty = false := by simpa using hne
  simp [Section.opened, hold]

/-- the lines behind a title fill the section that it opens -/
theorem foldlM_add_opened (t : Top) {blocks : List Block} (h : ∀ b ∈ blocks, b.WellFormed) :
    ∃ s, (t.headerLines blocks ++ blocks.flatMap Block.lines).foldlM Section.add (Section.opened t.title) = .ok s ∧
      s.build? = some (t.fileDiff blocks) := by
  obtain ⟨s1, hrun1, hpaths1, hlines1⟩ := foldlM_add (Section.opened t.title)
    fun l (hl : l ∈ t.headerLines blocks) => (isHeaderLine_of_mem hl).no_hunk
  obtain ⟨s2, hrun2, hpaths2, hlines2⟩ := foldlM_add_blocks s1 h
  have hpaths : s2.paths = t.paths blocks := by
    rw [hpaths2, hpaths1, opened_title]
    rfl
  have hlines : s2.lines.toList = (t.fileDiff blocks).lines := by
    rw [hlines2, hlines1, opened_title]
    rfl
  obtain ⟨hold, hnew⟩ := paths_ne_nil t blocks
  refine ⟨s2, ?_, ?_⟩
  · rw [List.foldlM_append, hrun1]
    exact hrun2
  · have hold' : s2.paths.old.isEmpty = false := by simpa [hpaths] using hold
    have hnew' : s2.paths.new.isEmpty = false := by simpa [hpaths] using hnew
    rw [Section.build?, hold', hnew', hlines, hpaths]
    rfl

theorem feed_title (r : Reading) (t : Top) : r.feed t.title = .ok ⟨r.files, Section.opened t.title⟩ := by
  have hmark : sectionMark.isPrefixOf t.title = true := by
    rw [List.isPrefixOf_iff_prefix, Top.title, title_eq]
    exact List.prefix_append _ _
  rw [Reading.feed, if_pos hmark]

/-- lines without a section mark go to the section at hand -/
theorem foldlM_feed {ls : List (List Char)} (h : ∀ l ∈ ls, ¬ sectionMark <+: l) (r : Reading) :
    ls.foldlM Reading.feed r = (ls.foldlM Section.add r.current).map fun s => { r with current := s } := by
  induction ls generalizing r with
  | nil => rfl
  | cons l ls ih =>
    have hmark : ¬ sectionMark.isPrefixOf l = true := fun hpre =>
      h l List.mem_cons_self (List.isPrefixOf_iff_prefix.1 hpre)
    rw [List.foldlM_cons, List.foldlM_cons, Reading.feed, if_neg hmark]
    cases hadd : r.current.add l with
    | error e => rfl
    | ok s => exact ih (fun m hm => h m (List.mem_cons_of_mem l hm)) { r with current := s }

/-- a section closes the one before it and is the next file -/
theorem foldlM_feed_section (r : Reading) (t : Top) {blocks : List Block} (h : ∀ b ∈ blocks, b.WellFormed) :
    ∃ r', (t.lines blocks).foldlM Reading.feed r = .ok r' ∧ r'.files = r.files.push (t.fileDiff blocks) := by
  obtain ⟨s, hrun, hbuild⟩ := foldlM_add_opened t h
  have hinner : ∀ l ∈ t.headerLines blocks ++ blocks.flatMap Block.lines, ¬ sectionMark <+: l := by
    intro l hl
    rcases List.mem_append.1 hl with hl | hl
    · exact (isHeaderLine_of_mem hl).no_section
    · obtain ⟨b, hb, hl⟩ := List.mem_flatMap.1 hl
      exact (isInnerLine_of_mem (h b hb).toPrinted hl).no_section
  refine ⟨⟨r.files, s⟩, ?_, ?_⟩
  · rw [Top.lines, List.foldlM_cons, feed_title]
    refine (foldlM_feed hinner _).trans ?_
    rw [hrun]
    rfl
  · simp only [Reading.files, hbuild]

/-- the lines of sections, one section after another -/
def sectionLines (sections : List (Top × List Block)) : List (List Char) := sections.flatMap fun s => s.1.lines s.2

theorem foldlM_feed_sections (r : Reading) {sections : List (Top × List Block)}
    (h : ∀ s ∈ sections, ∀ b ∈ s.2, b.WellFormed) :
    ∃ r', (sectionLines sections).foldlM Reading.feed r = .ok r' ∧
      r'.files.toList = r.files.toList ++ sections.map fun s => s.1.fileDiff s.2 := by
  induction sections generalizing r with
  | nil => exact ⟨r, rfl, by simp⟩
  | cons s sections ih =>
    obtain ⟨r1, hrun1, hfiles1⟩ := foldlM_feed_section r s.1 (h s List.mem_cons_self)
    obtain ⟨r2, hrun2, hfiles2⟩ := ih r1 fun s' hs' => h s' (List.mem_cons_of_mem s hs')
    refine ⟨r2, ?_, ?_⟩
    · rw [sectionLines, List.flatMap_cons, List.foldlM_append, hrun1]
      exact hrun2
    · rw [hfiles2, hfiles1]
      simp

/-- no printed line is empty or holds a break -/
theorem line_of_mem_lines {t : Top} {blocks : List Block} (h : ∀ b ∈ blocks, b.Printed) {l : List Char}
    (hl : l ∈ t.lines blocks) : l ≠ [] ∧ '\n' ∉ l := by
  rcases List.mem_cons.1 hl with rfl | hl
  · have hold := break_not_mem_nameText ('a' :: '/' :: t.naming.old)
    have hnew := break_not_mem_nameText ('b' :: '/' :: t.naming.new)
    rw [Top.title, title_eq]
    refine ⟨List.append_ne_nil_of_left_ne_nil (by decide) _, ?_⟩
    rw [List.mem_append, List.mem_cons, List.mem_append, List.mem_cons]
    rintro (h | h | h | h | h)
    · exact absurd h (by decide)
    · exact absurd h (by decide)
    · exact hold h
    · exact absurd h (by decide)
    · exact hnew h
  · rcases List.mem_append.1 hl with hl | hl
    · exact ⟨(isHeaderLine_of_mem hl).nonempty, (isHeaderLine_of_mem hl).line⟩
    · obtain ⟨b, hb, hl⟩ := List.mem_flatMap.1 hl
      exact ⟨(isInnerLine_of_mem (h b hb) hl).nonempty, (isInnerLine_of_mem (h b hb) hl).line⟩

/-- **A diff is read section by section**, if framing keeps its lines -/
theorem parse_sections {sections : List (Top × List Block)} (h : ∀ s ∈ sections, ∀ b ∈ s.2, b.WellFormed)
    (hsafe : ∀ l ∈ sectionLines sections, Framing.Safe l) :
    parse (Framing.frameLines (textOf (sectionLines sections))) = .ok (sections.map fun s => s.1.fileDiff s.2) := by
  have hlines : ∀ l ∈ sectionLines sections, l ≠ [] ∧ '\n' ∉ l := by
    intro l hl
    obtain ⟨s, hs, hl⟩ := List.mem_flatMap.1 hl
    exact line_of_mem_lines (fun b hb => (h s hs b hb).toPrinted) hl
  obtain ⟨r, hrun, hfiles⟩ := foldlM_feed_sections .start h
  rw [parse, textOf, Framing.recordsOf_frameLines hsafe (fun l hl => (hlines l hl).2) fun l hl => (hlines l hl).1,
    ofRecords, hrun]
  have hstart : Reading.start.files.toList = [] := rfl
  rw [hstart, List.nil_append] at hfiles
  rw [Except.map, hfiles]

/-- sections that are made of something are read as their file diffs -/
theorem parse_map_sections {α : Type} (ps : List α) (top : α → Top) (blocks : α → List Block)
    (hwf : ∀ p ∈ ps, ∀ b ∈ blocks p, b.WellFormed) (hsafe : ∀ p ∈ ps, ∀ l ∈ (top p).lines (blocks p), Framing.Safe l) :
    parse (Framing.frameLines (textOf (ps.flatMap fun p => (top p).lines (blocks p)))) =
      .ok (ps.map fun p => (top p).fileDiff (blocks p)) := by
  have hlines : sectionLines (ps.map fun p => (top p, blocks p)) = ps.flatMap fun p => (top p).lines (blocks p) := by
    rw [sectionLines, List.flatMap_map]
  have hparse := @parse_sections (ps.map fun p => (top p, blocks p)) ?_ ?_
  · rw [hlines, List.map_map] at hparse
    rw [hparse]
    rfl
  · intro s hs
    obtain ⟨p, hp, rfl⟩ := List.mem_map.1 hs
    exact hwf p hp
  · rw [hlines]
    intro l hl
    obtain ⟨p, hp, hl⟩ := List.mem_flatMap.1 hl
    exact hsafe p hp l hl

/-! ## Paths -/

/-- **Paths survive quoting.** Of a section with blocks, titled and marked as version control writes it, each name that the
file has is read as its path. -/
theorem parse_section (t : Top) {blocks : List Block} (hblocks : blocks ≠ []) (hwf : ∀ b ∈ blocks, b.WellFormed)
    (hsafe : ∀ l ∈ t.lines blocks, Framing.Safe l) :
    ∃ d, parse (Framing.frameLines (textOf (t.lines blocks))) = .ok [d] ∧
      (t.naming.hasNew = true → d.newPath = String.ofList t.naming.new) ∧
      (t.naming.hasOld = true → d.oldPath = String.ofList t.naming.old) := by
  have hlines : sectionLines [(t, blocks)] = t.lines blocks := by
    rw [sectionLines, List.flatMap_singleton]
  have hwf' : ∀ s ∈ [(t, blocks)], ∀ b ∈ s.2, b.WellFormed := by
    intro s hs
    rw [List.mem_singleton.1 hs]
    exact hwf
  rw [← hlines] at hsafe
  have hparse := parse_sections hwf' hsafe
  rw [hlines] at hparse
  refine ⟨t.fileDiff blocks, hparse, fun hnew => ?_, fun hold => ?_⟩
  · rw [Top.fileDiff, paths_eq, if_neg hblocks, if_pos hnew]
  · rw [Top.fileDiff, paths_eq, if_neg hblocks, if_pos hold]

/-- a rename from a name with spaces, also at its end, to one with a quote, a tab, a break and a backslash -/
def awkwardTop : Top where
  naming := .renamed "a b/c d ".toList "q\"\t\n\\ b/é ".toList
  before := ["similarity index 90%".toList]
  after := ["index 1..2 100644".toList]
  old_ne := by decide
  new_ne := by decide
  plain := by decide

def changedLine : Block := ⟨1, 1, 1, 1, [], ["-x".toList, "+y".toList]⟩

theorem parse_awkwardTop :
    [changedLine] ≠ [] ∧ (∀ b ∈ [changedLine], b.WellFormed) ∧
      (∀ l ∈ awkwardTop.lines [changedLine], Framing.Safe l) ∧
      ∃ d, parse (Framing.frameLines (textOf (awkwardTop.lines [changedLine]))) = .ok [d] ∧
        d.newPath = "q\"\t\n\\ b/é " ∧ d.oldPath = "a b/c d " := by
  have hlimit : 1 < 10 ^ Number.digitLimit := Nat.one_lt_pow (by decide) (by decide)
  have hprefix : ∀ l ∈ changedLine.body, ∃ c ∈ bodyPrefixes, l.head? = some c := by
    intro l hl
    rcases List.mem_pair.1 hl with rfl | rfl
    · exact ⟨'-', by decide, rfl⟩
    · exact ⟨'+', by decide, rfl⟩
  have hwf : ∀ b ∈ [changedLine], b.WellFormed := by
    intro b hb
    rw [List.mem_singleton.1 hb]
    exact ⟨⟨by decide, by decide, hprefix⟩, hlimit, hlimit⟩
  have hsafe : ∀ l ∈ awkwardTop.lines [changedLine], Framing.Safe l := by decide
  obtain ⟨d, hparse, hnew, hold⟩ := parse_section awkwardTop (by decide) hwf hsafe
  refine ⟨by decide, hwf, hsafe, d, hparse, ?_, ?_⟩
  · rw [hnew rfl]
    decide
  · rw [hold rfl]
    decide

end ChangeLint.Diff
