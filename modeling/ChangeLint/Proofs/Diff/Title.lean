/-
Titles that name one file on both sides.

Of the two paths in a title nothing tells where the first one ends, but if both are the same it is the space in the middle,
however often ` a/` and ` b/` occur in them. So a title is read back when no name stands in quotes, and when both do,
however they are quoted (`NamesFile`, `headerPaths_namesFile`). A space at the end of a path must be in quotes.

A title begins a section anew: what was read before it and what is read from it on are put together
(`ofRecords_append`). So a section in which no line names a path has that of its title, whatever stands around it; in
particular one without any hunk, as for a change of mode or a binary file (`titles_name_files`).
-/
import ChangeLint.Proofs.Diff.Description
import ChangeLint.Proofs.Diff.Parse
import ChangeLint.Proofs.Diff.Quoting
import ChangeLint.Proofs.Except

namespace ChangeLint.Diff

open ChangeLint.Text

/-! ## Titles -/

/-- titles with one path on both sides: as it stands, if it holds no double quote, backslash or control character and does
not end with a space; or in quotes, on each side spelled in any way -/
inductive NamesFile (p : List Char) : List Char → Prop
  | plain (hspecial : p.any isSpecial = false) (hend : p.getLast? ≠ some ' ') :
    NamesFile p ("diff --git a/".toList ++ (p ++ (" b/".toList ++ p)))
  | quoted {ss ts : List Spelling} {old new : List Char} (hold : spelled? ss ('a' :: '/' :: p) = some old)
    (hnew : spelled? ts ('b' :: '/' :: p) = some new) :
    NamesFile p ("diff --git ".toList ++ (inQuotes old ++ ' ' :: inQuotes new))

variable {p line : List Char}

/-- two equal paths meet in the middle -/
theorem mirrored?_twice (p : List Char) : mirrored? ('a' :: '/' :: p ++ ' ' :: 'b' :: '/' :: p) = some p := by
  have hlen : ('a' :: '/' :: p ++ ' ' :: 'b' :: '/' :: p).length = 2 * (p.length + 2) + 1 := by
    simp
    omega
  have hhalf : (2 * (p.length + 2) + 1) / 2 = ('a' :: '/' :: p).length := by
    rw [List.length_cons, List.length_cons]
    omega
  rw [mirrored?, hlen, if_pos (by omega)]
  simp only [hhalf, List.take_left, List.drop_left, ite_true]

/-- behind a path that does not end with a space nothing is taken off -/
theorem trimEnd_side (hspecial : p.any isSpecial = false) (hend : p.getLast? ≠ some ' ') :
    trimEnd isHeaderBlank ('b' :: '/' :: p) = 'b' :: '/' :: p := by
  rcases List.eq_nil_or_concat p with rfl | ⟨init, c, rfl⟩
  · decide
  · rw [List.concat_eq_append] at hspecial hend ⊢
    have hc : c ∈ init ++ [c] := List.mem_append_right _ (List.mem_singleton_self c)
    have hblank : isHeaderBlank c = false := by
      simp only [isHeaderBlank, Bool.or_eq_false_iff, decide_eq_false_iff_not]
      refine ⟨⟨?_, ?_⟩, ?_⟩
      · rintro rfl
        exact hend List.getLast?_concat
      · rintro rfl
        exact not_mem_of_plain hspecial (by decide) hc
      · rintro rfl
        exact not_mem_of_plain hspecial (by decide) hc
    exact trimEnd_concat hblank ('b' :: '/' :: init)

theorem headerPaths_plain (hspecial : p.any isSpecial = false) (hend : p.getLast? ≠ some ' ') :
    headerPaths ("diff --git a/".toList ++ (p ++ (" b/".toList ++ p))) = (p, p) := by
  have hold : ('a' :: '/' :: p).any isSpecial = false := by rwa [any_isSpecial_side (by decide)]
  have hnew : ('b' :: '/' :: p).any isSpecial = false := by rwa [any_isSpecial_side (by decide)]
  have hmark : "diff --git a/".toList = "diff --git ".toList ++ ['a', '/'] := by decide
  have hside : " b/".toList = [' ', 'b', '/'] := by decide
  have htitle : "diff --git a/".toList ++ (p ++ (" b/".toList ++ p)) = title p p := by
    unfold title
    rw [nameText_of_plain hold, nameText_of_plain hnew, hmark, hside]
    simp
  have hrest : trim isHeaderBlank ((title p p).drop sectionMark.length) = 'a' :: '/' :: p ++ ' ' :: 'b' :: '/' :: p := by
    rw [trim_title, nameText_of_plain hold, nameText_of_plain hnew, trimEnd_side hspecial hend]
  have hquote : ('a' :: '/' :: p ++ ' ' :: 'b' :: '/' :: p).getLast? ≠ some '"' := fun h => by
    rcases List.mem_append.1 (List.mem_of_getLast? h) with hmem | hmem
    · exact not_mem_of_plain hold (by decide) hmem
    · exact not_mem_of_plain hnew (by decide) (List.mem_of_ne_of_mem (by decide) hmem)
  rw [htitle, headerPaths_unquoted hrest (by simp), if_neg hquote]
  simp only [mirrored?_twice]

theorem headerPaths_inQuotes {ss ts : List Spelling} {old new : List Char}
    (hold : spelled? ss ('a' :: '/' :: p) = some old) (hnew : spelled? ts ('b' :: '/' :: p) = some new) :
    headerPaths ("diff --git ".toList ++ (inQuotes old ++ ' ' :: inQuotes new)) = (p, p) := by
  have hmark : "diff --git ".toList = sectionMark ++ [' '] := by decide
  have hrest : trim isHeaderBlank (("diff --git ".toList ++ (inQuotes old ++ ' ' :: inQuotes new)).drop
      sectionMark.length) = '"' :: (old ++ '"' :: ' ' :: inQuotes new) := by
    -- the title ends with a quote, so only the space behind the mark is taken off
    have hend : '"' :: (old ++ '"' :: ' ' :: inQuotes new) = '"' :: (old ++ '"' :: ' ' :: '"' :: new) ++ ['"'] := by
      simp [inQuotes]
    rw [hmark, List.append_assoc, List.drop_left, List.singleton_append, trim, trimStart,
      List.dropWhile_cons_of_pos (by decide), inQuotes, List.cons_append, List.dropWhile_cons_of_neg (by decide),
      List.append_assoc, List.singleton_append, hend, trimEnd_concat (by decide)]
  rw [headerPaths_quoted hrest, quotedToken_inQuotes hold]
  simp only
  rw [List.dropWhile_cons_of_pos (by decide), inQuotes, List.dropWhile_cons_of_neg (by decide), ← inQuotes, ← inQuotes,
    unquoted_inQuotes hold, unquoted_inQuotes hnew, withoutSide_cons, withoutSide_cons]

/-- **A title that names a file on both sides is read as its path**, twice -/
theorem headerPaths_namesFile (h : NamesFile p line) : headerPaths line = (p, p) := by
  cases h with
  | plain hspecial hend => exact headerPaths_plain hspecial hend
  | quoted hold hnew => exact headerPaths_inQuotes hold hnew

/-- a space at the end of a path that is not in quotes goes with the blanks behind the title -/
example : headerPaths "diff --git a/x  b/x ".toList = ("x ".toList, "x".toList) := by decide

/-! ## What stands around a section -/

/-- a reading with other files done before it -/
def Reading.behind (done : Array FileDiff) (r : Reading) : Reading := ⟨done ++ r.done, r.current⟩

theorem files_behind (done : Array FileDiff) (r : Reading) : (r.behind done).files = done ++ r.files := by
  unfold Reading.files Reading.behind
  cases r.current.build? with
  | none => rfl
  | some d => exact Array.append_push.symm

/-- what is done already does not matter to the next record -/
theorem feed_behind (done : Array FileDiff) (r : Reading) (l : List Char) :
    (r.behind done).feed l = (r.feed l).map (Reading.behind done) := by
  unfold Reading.feed
  split
  · rw [files_behind]
    rfl
  · have hcurrent : (r.behind done).current = r.current := rfl
    rw [hcurrent]
    cases r.current.add l with
    | error e => rfl
    | ok s => rfl

theorem foldlM_feed_behind (done : Array FileDiff) (r : Reading) (ls : List (List Char)) :
    ls.foldlM Reading.feed (r.behind done) = (ls.foldlM Reading.feed r).map (Reading.behind done) := by
  induction ls generalizing r with
  | nil => rfl
  | cons l ls ih =>
    rw [List.foldlM_cons, List.foldlM_cons, feed_behind]
    cases r.feed l with
    | error e => rfl
    | ok r' => exact ih r'

/-- **A title begins anew**: what is read before it and from it on is put together -/
theorem ofRecords_append {before after : List (List Char)} (h : ∀ l ∈ after.head?, sectionMark <+: l) :
    ofRecords (before ++ after) = (ofRecords before).bind fun ds => (ofRecords after).map (ds ++ ·) := by
  unfold ofRecords
  rw [List.foldlM_append]
  cases before.foldlM Reading.feed .start with
  | error e => rfl
  | ok r =>
    cases after with
    | nil =>
      have hnil : r.files.toList = r.files.toList ++ [] := (List.append_nil _).symm
      exact congrArg Except.ok hnil
    | cons l ls =>
      have hmark : sectionMark.isPrefixOf l = true := List.isPrefixOf_iff_prefix.2 (h l rfl)
      have hfeed (r : Reading) : r.feed l = .ok ((⟨#[], .opened l⟩ : Reading).behind r.files) := by
        rw [Reading.feed, if_pos hmark, Reading.behind, Array.append_empty]
      have hstart : (⟨#[], .opened l⟩ : Reading).behind Reading.start.files = ⟨#[], .opened l⟩ := rfl
      simp only [ok_bind, List.foldlM_cons, hfeed, foldlM_feed_behind, hstart]
      cases ls.foldlM Reading.feed ⟨#[], .opened l⟩ with
      | error e => rfl
      | ok r' =>
        have hfiles : (r'.behind r.files).files.toList = r.files.toList ++ r'.files.toList := by
          rw [files_behind, Array.toList_append]
        exact congrArg Except.ok hfiles

/-! ## Sections without a line that names a path -/

variable {title : List Char} {body : List (List Char)}

theorem NamesFile.opens (h : NamesFile p title) : sectionMark <+: title := by
  have hplain : sectionMark <+: "diff --git a/".toList := by decide
  have hquoted : sectionMark <+: "diff --git ".toList := by decide
  cases h with
  | plain => exact hplain.trans (List.prefix_append _ _)
  | quoted => exact hquoted.trans (List.prefix_append _ _)

/-- a line that begins no hunk is legible -/
theorem legibleLine_of_not_hunk {l : List Char} (h : ¬ hunkMark <+: l) : LegibleLine l := by
  have hmark : ¬ "@@ -".toList.isPrefixOf l = true := fun hpre =>
    h ((List.prefix_append hunkMark " -".toList).trans (List.isPrefixOf_iff_prefix.1 hpre))
  intro starts hstarts
  rw [hunkStarts?, if_neg hmark] at hstarts
  cases hstarts

/-- a section alone is read as what it describes -/
theorem ofRecords_section (htitle : sectionMark <+: title) (hlegible : ∀ l ∈ body, LegibleLine l)
    (hbody : ∀ l ∈ body, ¬ sectionMark <+: l) :
    ofRecords (title :: body) = .ok (fileDiff? (titlePaths title) body).toList := by
  obtain ⟨s, hrun, hagrees⟩ := (agrees_opened title).foldlM_add hlegible
  have hfeed : Reading.start.feed title = .ok ⟨#[], .opened title⟩ := if_pos (List.isPrefixOf_iff_prefix.2 htitle)
  have hfiles : (⟨#[], s⟩ : Reading).files.toList = (fileDiff? (titlePaths title) body).toList := by
    rw [Reading.files, hagrees.build?_eq, List.nil_append]
    cases fileDiff? (titlePaths title) body <;> rfl
  rw [ofRecords, List.foldlM_cons, hfeed, ok_bind, foldlM_feed hbody, hrun]
  exact congrArg Except.ok hfiles

/-- the file diff of a section with one path on both sides -/
def symmetricDiff (p : List Char) (body : List (List Char)) : FileDiff :=
  ⟨String.ofList p, String.ofList p, describedLines body⟩

/-- the paths of the title stay, if no line before the first hunk names another one -/
theorem fileDiff?_of_unmarked (hp : p ≠ []) (hpaths : headerPaths title = (p, p))
    (hunmarked : ∀ l ∈ body.takeWhile fun l => !isHunk l, ∀ m ∈ lineMarks, ¬ m <+: l) :
    fileDiff? (titlePaths title) body = some (symmetricDiff p body) := by
  have htitle : titlePaths title = ⟨p, p⟩ := by rw [titlePaths, hpaths]
  have hfinal : finalPaths (titlePaths title) body = ⟨p, p⟩ := by
    rw [htitle, finalPaths, if_neg fun h => hp h.1, foldl_take_unmarked hunmarked]
  rw [fileDiff?, hfinal, if_neg fun h => hp (h.elim id id)]
  rfl

/-- and among other sections it adds this file diff to theirs -/
theorem ofRecords_among (hp : p ≠ []) (h : NamesFile p title) (before after : List (List Char))
    (hlegible : ∀ l ∈ body, LegibleLine l) (hbody : ∀ l ∈ body, ¬ sectionMark <+: l)
    (hunmarked : ∀ l ∈ body.takeWhile fun l => !isHunk l, ∀ m ∈ lineMarks, ¬ m <+: l)
    (hafter : ∀ l ∈ after.head?, sectionMark <+: l) :
    ofRecords (before ++ (title :: body ++ after)) =
      (ofRecords before).bind fun ds => (ofRecords after).map fun es => ds ++ symmetricDiff p body :: es := by
  have hopens : ∀ l ∈ (title :: body ++ after).head?, sectionMark <+: l := by
    rintro l ⟨⟩
    exact h.opens
  rw [ofRecords_append hopens, ofRecords_append hafter, ofRecords_section h.opens hlegible hbody,
    fileDiff?_of_unmarked hp (headerPaths_namesFile h) hunmarked]
  cases ofRecords before with
  | error e => rfl
  | ok ds => cases ofRecords after <;> rfl

/-- what is read of a title and of the sections that it opens -/
structure KeepsPath (p title : List Char) : Prop where
  paths : headerPaths title = (p, p)
  /-- a section without marker lines, as for a change of mode or a binary file -/
  alone : ∀ (framed : String) (body : List (List Char)), Framing.recordsOf framed.toList = title :: body →
    (∀ l ∈ body, ∀ m ∈ lineMarks, ¬ m <+: l) → parse framed = .ok [symmetricDiff p body]
  /-- a section that names no path before its first hunk, whatever stands around it -/
  among : ∀ (framed : String) (before body after : List (List Char)),
    Framing.recordsOf framed.toList = before ++ (title :: body ++ after) → (∀ l ∈ body, LegibleLine l) →
    (∀ l ∈ body, ¬ sectionMark <+: l) → (∀ l ∈ body.takeWhile fun l => !isHunk l, ∀ m ∈ lineMarks, ¬ m <+: l) →
    (∀ l ∈ after.head?, sectionMark <+: l) →
    parse framed = (ofRecords before).bind fun ds => (ofRecords after).map fun es => ds ++ symmetricDiff p body :: es

/-- **Titles name their files.** A title with one path on both sides, as it stands or in quotes, is read as this path, and a
section that it opens has the path on both sides, unless a line of the section names another one. -/
theorem titles_name_files (hp : p ≠ []) (h : NamesFile p title) : KeepsPath p title where
  paths := headerPaths_namesFile h
  alone framed body hrecords hunmarked := by
    have hlegible : ∀ l ∈ body, LegibleLine l := fun l hl =>
      legibleLine_of_not_hunk (hunmarked l hl hunkMark (.tail _ (.head _)))
    have hbody : ∀ l ∈ body, ¬ sectionMark <+: l := fun l hl => hunmarked l hl sectionMark (.head _)
    have hamong := ofRecords_among hp h [] [] hlegible hbody
      (fun l hl => hunmarked l (List.takeWhile_subset _ hl)) (by simp)
    rw [List.nil_append, List.append_nil] at hamong
    rw [parse, hrecords, hamong]
    rfl
  among framed before body after hrecords hlegible hbody hunmarked hafter := by
    rw [parse, hrecords, ofRecords_among hp h before after hlegible hbody hunmarked hafter]

/-- a path with both sides of a title in it -/
def nestedPath : List Char := "x b/x a/y b/x".toList

def nestedTitle : List Char := "diff --git a/x b/x a/y b/x b/x b/x a/y b/x".toList

def modeLines : List (List Char) := ["old mode 100644".toList, "new mode 100755".toList]

/-- a path with a quote, a tab and a letter beyond ASCII, spelled in two ways -/
def quotedPath : List Char := "q\"\té".toList

def quotedTitle : List Char := "diff --git \"a/q\\\"\\t\\303\\251\" \"b/q\\042\\té\"".toList

theorem namesFile_nestedTitle : NamesFile nestedPath nestedTitle := .plain (by decide) (by decide)

theorem namesFile_quotedTitle : NamesFile quotedPath quotedTitle :=
  @NamesFile.quoted quotedPath [.literal, .literal, .literal, .letter, .letter, .octal]
    [.literal, .literal, .literal, .octal, .letter, .literal] "a/q\\\"\\t\\303\\251".toList "b/q\\042\\té".toList
    (by decide) (by decide)

theorem titles_name_files_awkward :
    nestedPath ≠ [] ∧ NamesFile nestedPath nestedTitle ∧
      parse (Framing.frameLines (textOf (nestedTitle :: modeLines))) = .ok [symmetricDiff nestedPath modeLines] ∧
      quotedPath ≠ [] ∧ NamesFile quotedPath quotedTitle ∧ headerPaths quotedTitle = (quotedPath, quotedPath) := by
  have hrecords : Framing.recordsOf (Framing.frameLines (textOf (nestedTitle :: modeLines))).toList =
      nestedTitle :: modeLines := Framing.recordsOf_frameLines (by decide) (by decide) (by decide)
  refine ⟨by decide, namesFile_nestedTitle, ?_, by decide, namesFile_quotedTitle, ?_⟩
  · exact (titles_name_files (by decide) namesFile_nestedTitle).alone _ _ hrecords (by decide)
  · exact (titles_name_files (by decide) namesFile_quotedTitle).paths

end ChangeLint.Diff
