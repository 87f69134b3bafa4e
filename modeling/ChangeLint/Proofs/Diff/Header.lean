/-
Paths of a section.

The title alone does not tell where its first path ends, so what is read of it may be wrong; but the first path is never
empty, and for a file that keeps its name the second one is not either. The lines behind the title set the paths: those of
a rename set both, and the marker lines each one that the file has.

Results:
- `headerPaths_title_fst`, `headerPaths_title_snd`: what is read of a title is not empty;
- `markerPath?_markerName`: a name in a marker line stands for its path;
- `paths_ne_nil`: behind the header lines both paths are known;
- `paths_eq`: they are those of the file, if blocks follow.
-/
import ChangeLint.Diff.Parse
import ChangeLint.Proofs.Diff.Patch
import ChangeLint.Proofs.Text.Blank
import ChangeLint.Proofs.Text.Split

namespace ChangeLint.Diff

open ChangeLint.Text

variable {old new : List Char}

/-! ## Titles -/

theorem withoutSide_cons (c : Char) (path : List Char) : withoutSide c (c :: '/' :: path) = path := by
  simp [withoutSide, dropPrefix]

theorem any_isSpecial_side {c : Char} (hc : isSpecial c = false) (path : List Char) :
    (c :: '/' :: path).any isSpecial = path.any isSpecial := by
  rw [List.any_cons, List.any_cons, hc, Bool.false_or]
  rfl

/-- a name begins with its side or with a quote, so with no blank -/
theorem exists_nameText {c : Char} (hc : isHeaderBlank c = false) (path : List Char) :
    ∃ x rest, nameText (c :: path) = x :: rest ∧ isHeaderBlank x = false := by
  unfold nameText
  split
  · exact ⟨'"', _, rfl, by decide⟩
  · exact ⟨c, path, rfl, hc⟩

theorem title_eq (old new : List Char) :
    title old new = sectionMark ++ ' ' :: (nameText ('a' :: '/' :: old) ++ ' ' :: nameText ('b' :: '/' :: new)) := rfl

theorem drop_title (old new : List Char) :
    (title old new).drop sectionMark.length =
      ' ' :: (nameText ('a' :: '/' :: old) ++ ' ' :: nameText ('b' :: '/' :: new)) := by
  rw [title_eq]
  exact List.drop_left

/-- a title without its mark and the blanks around the names -/
theorem trim_title (old new : List Char) :
    trim isHeaderBlank ((title old new).drop sectionMark.length) =
      nameText ('a' :: '/' :: old) ++ ' ' :: trimEnd isHeaderBlank (nameText ('b' :: '/' :: new)) := by
  obtain ⟨x, u, hu, hx⟩ := exists_nameText (c := 'a') (by decide) ('/' :: old)
  obtain ⟨y, v, hv, hy⟩ := exists_nameText (c := 'b') (by decide) ('/' :: new)
  have hstart : trimStart isHeaderBlank (' ' :: (x :: u ++ ' ' :: y :: v)) = (x :: u ++ [' ']) ++ y :: v := by
    rw [trimStart, List.dropWhile_cons_of_pos (by decide), List.cons_append,
      List.dropWhile_cons_of_neg (by simp [hx])]
    simp
  have hname : trimEnd isHeaderBlank (y :: v) = y :: trimEnd isHeaderBlank v := trimEnd_append_cons hy [] v
  rw [drop_title, hu, hv, trim, hstart, trimEnd_append_cons hy, hname]
  simp

theorem headerPaths_quoted {line body : List Char}
    (h : trim isHeaderBlank (line.drop sectionMark.length) = '"' :: body) :
    headerPaths line = (withoutSide 'a' (unquoted ('"' :: (quotedToken body).1)),
      withoutSide 'b' (unquoted ((quotedToken body).2.dropWhile (· = ' ')))) := by
  rw [headerPaths, h]
  rfl

theorem headerPaths_unquoted {line rest : List Char} (h : trim isHeaderBlank (line.drop sectionMark.length) = rest)
    (hhead : rest.head? ≠ some '"') :
    headerPaths line =
      match if rest.getLast? = some '"' then splitLast? [' ', '"'] rest else none with
      | some (old, new) => (withoutSide 'a' old, withoutSide 'b' (unquoted ('"' :: new)))
      | none => match mirrored? rest with
        | some path => (path, path)
        | none => match sided? line with
          | some paths => paths
          | none => lastWords line := by
  unfold headerPaths
  simp only [h]
  split
  · exact absurd rfl hhead
  · rfl

/-- a quoted first name is read exactly -/
theorem headerPaths_of_special (h : old.any isSpecial = true) (new : List Char) :
    headerPaths (title old new) =
      (old, withoutSide 'b' (unquoted (trimEnd isHeaderBlank (nameText ('b' :: '/' :: new))))) := by
  obtain ⟨y, v, hv, hy⟩ := exists_nameText (c := 'b') (by decide) ('/' :: new)
  have hname : trimEnd isHeaderBlank (nameText ('b' :: '/' :: new)) = y :: trimEnd isHeaderBlank v := by
    rw [hv]
    exact trimEnd_append_cons hy [] v
  have hspace : y ≠ ' ' := by
    rintro rfl
    exact absurd hy (by decide)
  have hspecial : ('a' :: '/' :: old).any isSpecial = true := by rwa [any_isSpecial_side (by decide)]
  have hspelled := spells_map_escape ('a' :: '/' :: old)
  have hrest : trim isHeaderBlank ((title old new).drop sectionMark.length) =
      '"' :: ((('a' :: '/' :: old).map escape).flatten ++ '"' :: ' ' :: y :: trimEnd isHeaderBlank v) := by
    rw [trim_title, nameText_of_special hspecial, hname, List.cons_append, List.append_assoc]
    rfl
  rw [headerPaths_quoted hrest, quotedToken_spelled hspelled]
  simp only
  rw [unquoted_spelled hspelled, withoutSide_cons, List.dropWhile_cons_of_pos (by decide),
    List.dropWhile_cons_of_neg (by simpa using hspace), hname]

/-- a quoted name behind one without quotes: what is read first begins with the first name -/
theorem headerPaths_of_plain_of_special (hold : old.any isSpecial = false) (hnew : new.any isSpecial = true) :
    ∃ more second, headerPaths (title old new) = (old ++ more, second) := by
  have hold' : ('a' :: '/' :: old).any isSpecial = false := by rwa [any_isSpecial_side (by decide)]
  have hnew' : ('b' :: '/' :: new).any isSpecial = true := by rwa [any_isSpecial_side (by decide)]
  obtain ⟨body, hbody⟩ : ∃ body, nameText ('b' :: '/' :: new) = '"' :: (body ++ ['"']) :=
    ⟨_, nameText_of_special hnew'⟩
  have hrest : trim isHeaderBlank ((title old new).drop sectionMark.length) =
      'a' :: '/' :: old ++ ([' ', '"'] ++ (body ++ ['"'])) := by
    rw [trim_title, nameText_of_plain hold', hbody, ← List.cons_append, trimEnd_concat (by decide)]
    rfl
  have hlast : ('a' :: '/' :: old ++ ([' ', '"'] ++ (body ++ ['"']))).getLast? = some '"' := by
    rw [← List.append_assoc, ← List.append_assoc, List.getLast?_concat]
  obtain ⟨more, second, hsplit⟩ := splitLast?_append [' ', '"'] (by decide) ('a' :: '/' :: old) (body ++ ['"'])
  rw [headerPaths_unquoted hrest (by simp), if_pos hlast, hsplit]
  exact ⟨more, _, Prod.ext (withoutSide_cons 'a' (old ++ more)) rfl⟩

/-! ### Names without quotes -/

theorem mirrored?_ne_nil {rest path : List Char} (h : mirrored? rest = some path) (hlen : 6 ≤ rest.length) :
    path ≠ [] := by
  unfold mirrored? at h
  split at h
  · simp only at h
    split at h
    · rename_i first second htake _
      split at h
      · rename_i heq
        cases h
        -- half of the text but the space is the side and the path
        have hhalf := congrArg List.length htake
        rw [List.length_take_of_le (Nat.div_le_self _ 2), List.length_cons, List.length_cons] at hhalf
        rintro rfl
        rw [List.length_nil] at hhalf
        omega
      · cases h
    · cases h
  · cases h

theorem sideCut?_ne_nil {before cs u v : List Char} (h : sideCut? before cs = some (u, v)) : u ≠ [] ∧ v ≠ [] := by
  induction cs generalizing before with
  | nil => cases h
  | cons c cs ih =>
    rw [sideCut?] at h
    split at h
    · rename_i hcut
      simp only [Bool.and_eq_true, Bool.not_eq_true', List.isEmpty_eq_false_iff] at hcut
      cases h
      exact ⟨by simpa using hcut.1.1.1, hcut.1.2⟩
    · split at h
      · cases h
      · exact ih h

theorem sided?_ne_nil {line u v : List Char} (h : sided? line = some (u, v)) : u ≠ [] ∧ v ≠ [] := by
  unfold sided? at h
  simp only at h
  split at h
  · exact sideCut?_ne_nil h
  · cases h

theorem lastWords_ne_nil {line : List Char} (h : 4 ≤ (words line).length) :
    (lastWords line).1 ≠ [] ∧ (lastWords line).2 ≠ [] := by
  have hrev : 4 ≤ (words line).reverse.length := by rwa [List.length_reverse]
  rw [lastWords, if_neg (by omega)]
  split
  · rename_i last old more hwords
    have hmem : ∀ w ∈ last :: old :: more, w ≠ [] := by
      intro w hw
      rw [← hwords, List.mem_reverse] at hw
      exact ne_nil_of_mem_words hw
    exact ⟨hmem old (by simp), hmem last (by simp)⟩
  · rename_i hshort
    match hwords : (words line).reverse with
    | [] => simp [hwords] at hrev
    | [w] => simp [hwords] at hrev
    | last :: old :: more => exact absurd hwords (hshort last old more)

theorem length_words_sectionMark : (words sectionMark).length = 2 := by decide

/-- the two words of the mark and one word at least of each name -/
theorem four_le_words (u v : List Char) : 4 ≤ (words (sectionMark ++ ' ' :: ('a' :: u ++ ' ' :: 'b' :: v))).length := by
  have hu := List.length_pos_of_ne_nil (words_cons_ne_nil (c := 'a') (by decide) u)
  have hv := List.length_pos_of_ne_nil (words_cons_ne_nil (c := 'b') (by decide) v)
  rw [words_append_cons (by decide), words_append_cons (by decide), List.length_append, List.length_append,
    length_words_sectionMark]
  omega

/-- two names without quotes: neither path that is read is empty -/
theorem headerPaths_of_plain (hold : old.any isSpecial = false) (hnew : new.any isSpecial = false) (hne : old ≠ []) :
    (headerPaths (title old new)).1 ≠ [] ∧ (headerPaths (title old new)).2 ≠ [] := by
  have hold' : ('a' :: '/' :: old).any isSpecial = false := by rwa [any_isSpecial_side (by decide)]
  have hnew' : ('b' :: '/' :: new).any isSpecial = false := by rwa [any_isSpecial_side (by decide)]
  have hname : trimEnd isHeaderBlank ('b' :: '/' :: new) = 'b' :: '/' :: trimEnd isHeaderBlank new :=
    trimEnd_append_cons (by decide) ['b'] new
  have hrest : trim isHeaderBlank ((title old new).drop sectionMark.length) =
      'a' :: '/' :: old ++ ' ' :: 'b' :: '/' :: trimEnd isHeaderBlank new := by
    rw [trim_title, nameText_of_plain hold', nameText_of_plain hnew', hname]
  have hlast : ('a' :: '/' :: old ++ ' ' :: 'b' :: '/' :: trimEnd isHeaderBlank new).getLast? ≠ some '"' := by
    intro h
    have hquote := List.mem_of_getLast? h
    rw [← hname] at hquote
    rcases List.mem_append.1 hquote with hquote | hquote
    · exact not_mem_of_plain (c := '"') hold' (by decide) hquote
    · exact not_mem_of_plain (c := '"') hnew' (by decide)
        ((List.rdropWhile_prefix _ _).subset (List.mem_of_ne_of_mem (by decide) hquote))
  have hlen : 6 ≤ ('a' :: '/' :: old ++ ' ' :: 'b' :: '/' :: trimEnd isHeaderBlank new).length := by
    have := List.length_pos_of_ne_nil hne
    simp
    omega
  rw [headerPaths_unquoted hrest (by simp), if_neg hlast]
  simp only
  -- the rules in their order: two equal paths, a cut at a side, the last words
  split
  · rename_i path hpath
    exact ⟨mirrored?_ne_nil hpath hlen, mirrored?_ne_nil hpath hlen⟩
  · split
    · rename_i paths hpaths
      exact sided?_ne_nil hpaths
    · refine lastWords_ne_nil ?_
      rw [title_eq, nameText_of_plain hold', nameText_of_plain hnew']
      exact four_le_words _ _

/-! ### Any names -/

/-- **The first path that is read of a title is not empty** -/
theorem headerPaths_title_fst (hne : old ≠ []) (new : List Char) : (headerPaths (title old new)).1 ≠ [] := by
  cases hold : old.any isSpecial with
  | true => rwa [headerPaths_of_special hold]
  | false =>
    cases hnew : new.any isSpecial with
    | true =>
      obtain ⟨more, second, h⟩ := headerPaths_of_plain_of_special hold hnew
      rw [h]
      exact List.append_ne_nil_of_left_ne_nil hne more
    | false => exact (headerPaths_of_plain hold hnew hne).1

/-- **Nor is the second one**, if both names are the same -/
theorem headerPaths_title_snd {path : List Char} (hne : path ≠ []) : (headerPaths (title path path)).2 ≠ [] := by
  cases hpath : path.any isSpecial with
  | true =>
    have hpath' : ('b' :: '/' :: path).any isSpecial = true := by rwa [any_isSpecial_side (by decide)]
    have htrim : trimEnd isHeaderBlank (nameText ('b' :: '/' :: path)) = nameText ('b' :: '/' :: path) := by
      rw [nameText_of_special hpath', ← List.cons_append, trimEnd_concat (by decide)]
    rw [headerPaths_of_special hpath, htrim, unquoted_nameText, withoutSide_cons]
    exact hne
  | false => exact (headerPaths_of_plain hpath hpath hne).2

/-! ## Marker lines -/

/-- a name does not end with a tab: one that has a tab is quoted -/
theorem getLast?_nameText (path : List Char) : (nameText path).getLast? ≠ some '\t' := by
  cases h : path.any isSpecial with
  | true =>
    rw [nameText_of_special h, ← List.cons_append, List.getLast?_concat]
    decide
  | false =>
    rw [nameText_of_plain h]
    exact fun hlast => not_mem_of_plain (c := '\t') h (by decide) (List.mem_of_getLast? hlast)

/-- the tab behind a name with a space comes off again -/
theorem markerName_tab (side : Char) (path : List Char) :
    (if (markerName side path).getLast? = some '\t' then (markerName side path).dropLast else markerName side path) =
      nameText (side :: '/' :: path) := by
  unfold markerName
  simp only
  split
  · rw [List.getLast?_concat, if_pos rfl, List.dropLast_concat]
  · rw [if_neg (getLast?_nameText _)]

/-- **A name in a marker line stands for its path** -/
theorem markerPath?_markerName (mark : List Char) (hmark : mark.length = 4) {side : Char} (hside : side ≠ '/')
    (path : List Char) : markerPath? [side, '/'] (mark ++ markerName side path) = some path := by
  have hpath : side :: '/' :: path ≠ nullPath := fun h => hside (List.cons.inj h).1
  rw [markerPath?, ← hmark, List.drop_left]
  simp only [markerName_tab, unquoted_nameText]
  rw [if_neg hpath, dropPrefix, if_pos (by simp)]
  rfl

/-- the file that is not there has no path -/
theorem markerPath?_nullPath (mark side : List Char) (hmark : mark.length = 4) :
    markerPath? side (mark ++ nullPath) = none := by
  rw [markerPath?, ← hmark, List.drop_left]
  rfl

/-! ## Header lines -/

theorem orElse_some {path : List Char} (h : path ≠ []) (other : List Char) : orElse (some path) other = path := by
  obtain ⟨c, cs, rfl⟩ := List.exists_cons_of_ne_nil h
  rfl

/-- a line without a mark names no path -/
theorem take_unmarked {l : List Char} (h : ∀ m ∈ lineMarks, ¬ m <+: l) (p : Paths) : p.take l = p := by
  have hmark : ∀ m ∈ lineMarks, ¬ m.isPrefixOf l = true := fun m hm hpre => h m hm (List.isPrefixOf_iff_prefix.1 hpre)
  rw [Paths.take, if_neg (hmark "--- ".toList (.tail _ (.tail _ (.head _)))),
    if_neg (hmark "+++ ".toList (.tail _ (.tail _ (.tail _ (.head _))))),
    if_neg (hmark "rename from ".toList (.tail _ (.tail _ (.tail _ (.tail _ (.head _)))))),
    if_neg (hmark "rename to ".toList (.tail _ (.tail _ (.tail _ (.tail _ (.tail _ (.head _)))))))]

theorem foldl_take_unmarked {ls : List (List Char)} (h : ∀ l ∈ ls, ∀ m ∈ lineMarks, ¬ m <+: l) (p : Paths) :
    ls.foldl Paths.take p = p := by
  induction ls with
  | nil => rfl
  | cons l ls ih =>
    rw [List.foldl_cons, take_unmarked (h l List.mem_cons_self), ih fun m hm => h m (List.mem_cons_of_mem l hm)]

theorem take_old (p : Paths) (name : List Char) :
    p.take ("--- ".toList ++ name) = ⟨orElse (markerPath? "a/".toList ("--- ".toList ++ name)) p.old, p.new⟩ := rfl

theorem take_new (p : Paths) (name : List Char) :
    p.take ("+++ ".toList ++ name) = ⟨p.old, orElse (markerPath? "b/".toList ("+++ ".toList ++ name)) p.new⟩ := rfl

theorem take_renameFrom (p : Paths) (path : List Char) :
    p.take ("rename from ".toList ++ nameText path) = ⟨path, p.new⟩ := by
  have htake : p.take ("rename from ".toList ++ nameText path) = ⟨unquoted (nameText path), p.new⟩ := rfl
  rw [htake, unquoted_nameText]

theorem take_renameTo (p : Paths) (path : List Char) :
    p.take ("rename to ".toList ++ nameText path) = ⟨p.old, path⟩ := by
  have htake : p.take ("rename to ".toList ++ nameText path) = ⟨p.old, unquoted (nameText path)⟩ := rfl
  rw [htake, unquoted_nameText]

/-- the marker line of the old file names it, if it is there -/
theorem take_oldMarker (p : Paths) (t : Top) :
    p.take ("--- ".toList ++ if t.naming.hasOld then markerName 'a' t.naming.old else nullPath) =
      ⟨if t.naming.hasOld then t.naming.old else p.old, p.new⟩ := by
  rw [take_old]
  cases t.naming.hasOld with
  | true =>
    have hpath : markerPath? "a/".toList ("--- ".toList ++ markerName 'a' t.naming.old) = some t.naming.old :=
      markerPath?_markerName _ rfl (by decide) _
    rw [if_pos rfl, hpath, orElse_some t.old_ne, if_pos rfl]
  | false =>
    rw [if_neg Bool.false_ne_true, markerPath?_nullPath _ _ rfl, if_neg Bool.false_ne_true]
    rfl

/-- the marker line of the new file names it, if it is there -/
theorem take_newMarker (p : Paths) (t : Top) :
    p.take ("+++ ".toList ++ if t.naming.hasNew then markerName 'b' t.naming.new else nullPath) =
      ⟨p.old, if t.naming.hasNew then t.naming.new else p.new⟩ := by
  rw [take_new]
  cases t.naming.hasNew with
  | true =>
    have hpath : markerPath? "b/".toList ("+++ ".toList ++ markerName 'b' t.naming.new) = some t.naming.new :=
      markerPath?_markerName _ rfl (by decide) _
    rw [if_pos rfl, hpath, orElse_some t.new_ne, if_pos rfl]
  | false =>
    rw [if_neg Bool.false_ne_true, markerPath?_nullPath _ _ rfl, if_neg Bool.false_ne_true]
    rfl

/-! ## From the title to the blocks -/

/-- the paths of a section after its header lines -/
def Top.paths (t : Top) (blocks : List Block) : Paths :=
  (t.headerLines blocks).foldl Paths.take ⟨(headerPaths t.title).1, (headerPaths t.title).2⟩

/-- the paths before the marker lines -/
def Top.namedPaths (t : Top) : Paths :=
  t.renameLines.foldl Paths.take ⟨(headerPaths t.title).1, (headerPaths t.title).2⟩

theorem namedPaths_ne_nil (t : Top) : t.namedPaths.old ≠ [] ∧ t.namedPaths.new ≠ [] := by
  have hold := t.old_ne
  have hnew := t.new_ne
  unfold Top.namedPaths Top.renameLines Top.title
  cases hnaming : t.naming with
  | modified path | added path | deleted path =>
    rw [hnaming] at hold
    exact ⟨headerPaths_title_fst hold path, headerPaths_title_snd hold⟩
  | renamed old new =>
    rw [hnaming] at hold hnew
    simp only [List.foldl_cons, List.foldl_nil, take_renameFrom, take_renameTo]
    exact ⟨hold, hnew⟩

theorem paths_eq (t : Top) (blocks : List Block) :
    t.paths blocks = if blocks = [] then t.namedPaths
      else ⟨if t.naming.hasOld then t.naming.old else t.namedPaths.old,
        if t.naming.hasNew then t.naming.new else t.namedPaths.new⟩ := by
  have hbefore : ∀ l ∈ t.before, ∀ m ∈ lineMarks, ¬ m <+: l := fun l hl =>
    (t.plain l (List.mem_append_left _ hl)).unmarked
  have hafter : ∀ l ∈ t.after, ∀ m ∈ lineMarks, ¬ m <+: l := fun l hl =>
    (t.plain l (List.mem_append_right _ hl)).unmarked
  rw [Top.paths, Top.headerLines, List.foldl_append, List.foldl_append, List.foldl_append,
    foldl_take_unmarked hbefore, foldl_take_unmarked hafter, ← Top.namedPaths]
  split
  · rfl
  · rw [Top.markerLines, List.foldl_cons, List.foldl_cons, List.foldl_nil, take_oldMarker, take_newMarker]

/-- **After its header lines both paths of a section are known** -/
theorem paths_ne_nil (t : Top) (blocks : List Block) : (t.paths blocks).old ≠ [] ∧ (t.paths blocks).new ≠ [] := by
  obtain ⟨hold, hnew⟩ := namedPaths_ne_nil t
  rw [paths_eq]
  split
  · exact ⟨hold, hnew⟩
  · constructor
    · simp only
      split
      · exact t.old_ne
      · exact hold
    · simp only
      split
      · exact t.new_ne
      · exact hnew

end ChangeLint.Diff
