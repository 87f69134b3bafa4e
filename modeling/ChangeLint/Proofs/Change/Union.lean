/-
Framed listings in one text or in several.

A text that ends with the delimiter can be put in front of another one: the changes of the whole are those of the first
and those of the second (`changes_append`). Its pieces do not have to end where the text ends, for the delimiter overlaps
itself. But what is left over is the end of a delimiter, which holds no mark of a record, and characters that are no marks
do not count in front of records, wherever the delimiters behind them are found (`told_cons`).

`resolveAll_eq_resolve_join`: several listings have the changes of the one text that they make up, and these depend on
nothing but which texts there are.
-/
import ChangeLint.Proofs.Change.Listing
import ChangeLint.Proofs.OrderedSet

namespace ChangeLint.Status

open ChangeLint.Text

variable {c : Char} {cs record : List Char} {s t : String} {texts : List String}

/-! ## What stands in front of a record -/

theorem splitLast?_cons {sep : Char} (h : c ≠ sep) (cs : List Char) :
    splitLast? [sep] (c :: cs) = (splitLast? [sep] cs).map fun s => (c :: s.1, s.2) := by
  rw [splitLast?]
  cases splitLast? [sep] cs with
  | some parts => rfl
  | none => simp [Ne.symm h]

/-- a character in front of the last separator stays in front of it, whether blanks are taken off behind it or not -/
theorem splitLast?_trimEnd_cons {p : Char → Bool} {sep : Char} (h : c ≠ sep) (cs : List Char) :
    splitLast? [sep] (trimEnd p (c :: cs)) = (splitLast? [sep] (trimEnd p cs)).map fun s => (c :: s.1, s.2) := by
  have htrim : trimEnd p (c :: cs) = if trimEnd p cs = [] then trimEnd p [c] else c :: trimEnd p cs := by
    simp only [trimEnd, List.reverse_cons, List.dropWhile_append, List.isEmpty_iff, List.reverse_eq_nil_iff,
      List.reverse_nil, List.nil_append]
    split
    · rfl
    · simp
  rw [htrim]
  split
  · rename_i hnil
    have hc : sep ∉ trimEnd p [c] := fun hmem => h (List.mem_singleton.1 ((List.rdropWhile_prefix p [c]).subset hmem)).symm
    rw [hnil, splitLast?_eq_none hc]
    rfl
  · exact splitLast?_cons h _

/-- a record is read from its first percent sign on -/
theorem fields?_cons (hpercent : c ≠ '%') (hhash : c ≠ '#') (record : List Char) :
    fields? (c :: record) = fields? record := by
  rw [fields?, fields?, splitLast?_trimEnd_cons hhash]
  rcases splitLast? ['#'] (trimEnd isBlank record) with _ | ⟨body, _ | ⟨d, ds⟩⟩
  · rfl
  · simp only [Option.map_some, splitLast?_cons hhash]
    rcases splitLast? ['#'] body with _ | ⟨field, status⟩
    · rfl
    · simp only [Option.map_some, splitLast?_trimEnd_cons hpercent]
      rcases splitLast? ['%'] (trimEnd isBlank field) with _ | ⟨front, _ | ⟨d, ds⟩⟩
      · rfl
      · simp [hpercent]
      · rfl
  · rfl

/-- the change that a piece of a framed text tells -/
def pieceChange? (piece : List Char) : Option FileChange := (readRecord (String.ofList piece)).toOption

theorem pieceChange?_congr {piece piece' : List Char} (h : fields? piece = fields? piece') :
    pieceChange? piece = pieceChange? piece' := by
  simp only [pieceChange?, readRecord, String.toList_ofList, h]
  cases fields? piece' with
  | none => rfl
  | some f =>
    dsimp only
    split
    · rfl
    · rfl
    · rfl
    · split
      · split <;> rfl
      · rfl
    · rfl

theorem pieceChange?_cons (hpercent : c ≠ '%') (hhash : c ≠ '#') (piece : List Char) :
    pieceChange? (c :: piece) = pieceChange? piece := pieceChange?_congr (fields?_cons hpercent hhash piece)

/-- a line break in front of a record does not count, whether it is taken off or not -/
theorem pieceChange?_dropBreak (piece : List Char) : pieceChange? (Framing.dropBreak piece) = pieceChange? piece := by
  unfold Framing.dropBreak
  split
  · rw [pieceChange?_cons (by decide) (by decide), pieceChange?_cons (by decide) (by decide)]
  · rw [pieceChange?_cons (by decide) (by decide)]
  · rfl

/-! ## What stands in front of a text -/

/-- the delimiter holds no mark of a record -/
theorem ne_of_mem_delimiter (h : c ∈ Framing.delimiter) : c ≠ '%' ∧ c ≠ '#' := by
  constructor
  · rintro rfl
    exact absurd h (by decide)
  · rintro rfl
    exact absurd h (by decide)

/-- the changes that the pieces of a framed text tell -/
def told (cs : List Char) : List FileChange := (cut '@' Framing.delimiterTail cs).filterMap pieceChange?

theorem changes_eq_told (framed : String) : changes framed = told framed.toList := by
  rw [changes, Framing.records, Framing.recordsOf, told, List.filterMap_map, List.filterMap_filter, List.filterMap_map]
  refine List.filterMap_congr fun piece _ => ?_
  rw [Function.comp_apply, ← pieceChange?_dropBreak]
  split
  · rfl
  · rename_i hempty
    have hnil : Framing.dropBreak piece = [] := by simpa using hempty
    rw [hnil]
    rfl

/-- **Characters that are no marks do not count in front of a text.** They may make a delimiter with it, and then the
pieces behind are others than without them; but these differ in such characters only. -/
theorem told_cons (hpercent : c ≠ '%') (hhash : c ≠ '#') (cs : List Char) : told (c :: cs) = told cs := by
  induction hn : cs.length using Nat.strong_induction_on generalizing c cs with
  | _ n ih =>
    subst hn
    by_cases hpre : Framing.delimiter <+: c :: cs
    · -- the rest of the delimiter comes off the text character by character
      obtain ⟨rest, hrest⟩ := hpre
      obtain ⟨-, rfl⟩ := List.cons.inj hrest
      have htail : ∀ u : List Char, u <:+ Framing.delimiterTail → told (u ++ rest) = told rest := by
        intro u hu
        induction u with
        | nil => rfl
        | cons d u ihu =>
          obtain ⟨hd, hd'⟩ := ne_of_mem_delimiter (List.mem_cons_of_mem '@' (hu.subset List.mem_cons_self))
          have hshorter : (u ++ rest).length < (Framing.delimiterTail ++ rest).length := by
            have hlength := hu.length_le
            rw [List.length_cons] at hlength
            rw [List.length_append, List.length_append]
            omega
          rw [List.cons_append, ih _ hshorter hd hd' _ rfl]
          exact ihu ((List.suffix_cons d u).trans hu)
      have hcut : told (Framing.delimiter ++ rest) = told rest := by
        rw [told, Framing.delimiter, cut_separator, List.filterMap_cons]
        rfl
      rw [← hrest, hcut]
      exact (htail _ List.suffix_rfl).symm
    · -- the character goes to the first piece
      obtain ⟨p, ps, hps⟩ := List.exists_cons_of_ne_nil (cut_ne_nil '@' Framing.delimiterTail cs)
      rw [told, told, cut_cons hpre, hps, pushFront, List.filterMap_cons, List.filterMap_cons,
        pieceChange?_cons hpercent hhash]

theorem told_append {u : List Char} (h : ∀ c ∈ u, c ≠ '%' ∧ c ≠ '#') (cs : List Char) : told (u ++ cs) = told cs := by
  induction u with
  | nil => rfl
  | cons c u ih =>
    rw [List.cons_append, told_cons (h c List.mem_cons_self).1 (h c List.mem_cons_self).2]
    exact ih fun d hd => h d (List.mem_cons_of_mem c hd)

/-! ## Texts that end with the delimiter -/

/-- a text as framing writes it: empty, or with the delimiter at its end -/
def Ended (s : String) : Prop := s = "" ∨ Framing.delimiter <:+ s.toList

instance : DecidablePred Ended := fun s => inferInstanceAs (Decidable (s = "" ∨ Framing.delimiter <:+ s.toList))

/-- of a text that ends with the delimiter nothing is left over but the end of a delimiter -/
theorem exists_cut_of_ended (h : Ended s) :
    ∃ ps last, last <:+ Framing.delimiter ∧
      ∀ rest, cut '@' Framing.delimiterTail (s.toList ++ rest) = ps ++ cut '@' Framing.delimiterTail (last ++ rest) := by
  obtain ⟨ps, last, -, htext, hps, hlast⟩ := exists_cut '@' Framing.delimiterTail s.toList
  refine ⟨ps, last, ?_, fun rest => ?_⟩
  · have hsuffix : last <:+ s.toList := ⟨_, htext.symm⟩
    rcases h with rfl | hend
    · exact hsuffix.trans (List.nil_suffix)
    · rcases List.suffix_or_suffix_of_suffix hsuffix hend with hle | hge
      · exact hle
      · exact absurd hge.isInfix hlast
  · rw [htext, List.append_assoc, cut_flatMap hps]

/-- **A text that ends with the delimiter adds its changes** to those of the text behind it -/
theorem changes_append (h : Ended s) (t : String) : changes (s ++ t) = changes s ++ changes t := by
  obtain ⟨ps, last, hlast, hcut⟩ := exists_cut_of_ended h
  have hmarks : ∀ c ∈ last, c ≠ '%' ∧ c ≠ '#' := fun c hc => ne_of_mem_delimiter (hlast.subset hc)
  have htold : ∀ rest, told (s.toList ++ rest) = ps.filterMap pieceChange? ++ told rest := by
    intro rest
    have hrest : told (s.toList ++ rest) = ps.filterMap pieceChange? ++ told (last ++ rest) := by
      rw [told, hcut, List.filterMap_append]
      rfl
    rw [hrest, told_append hmarks]
  have hs : told s.toList = ps.filterMap pieceChange? := by
    have hnone : told [] = [] := by
      rw [told, cut_nil]
      rfl
    have hnil := htold []
    rwa [List.append_nil, hnone, List.append_nil] at hnil
  rw [changes_eq_told, changes_eq_told, changes_eq_told, String.toList_append, htold, hs]

theorem changes_join (h : ∀ t ∈ texts, Ended t) : changes (String.join texts) = texts.flatMap changes := by
  induction texts with
  | nil =>
    rw [changes_eq_told, String.join_nil, String.toList_empty, told, cut_nil]
    rfl
  | cons t texts ih =>
    rw [String.join_cons, changes_append (h t List.mem_cons_self), List.flatMap_cons,
      ih fun u hu => h u (List.mem_cons_of_mem t hu)]

/-- the changes of several texts are those of each of them -/
theorem mem_resolveAll {c : FileChange} : c ∈ resolveAll texts ↔ ∃ t ∈ texts, c ∈ resolve t := by
  rw [resolveAll, ChangeSet.mem_ofList, List.mem_flatMap]
  exact exists_congr fun t => and_congr_right fun _ => ChangeSet.mem_ofList.symm

theorem resolveAll_congr {texts' : List String} (h : ∀ t, t ∈ texts' ↔ t ∈ texts) : resolveAll texts' = resolveAll texts := by
  refine ChangeSet.ofList_eq_iff.2 fun c => ?_
  rw [List.mem_flatMap, List.mem_flatMap]
  exact exists_congr fun t => and_congr_left fun _ => h t

theorem resolve_join (h : ∀ t ∈ texts, Ended t) : resolve (String.join texts) = resolveAll texts := by
  rw [resolve, changes_join h, resolveAll]

/-- **Listings in one text or in several.** Texts that are empty or end with the delimiter have together the changes of
the text that they make up, which are those of each of them; neither the order of the texts counts nor how often one is
repeated, so a text twice has the changes of the text. -/
theorem resolveAll_eq_resolve_join (texts : List String) (h : ∀ t ∈ texts, Ended t) :
    resolveAll texts = resolve (String.join texts) ∧
      (∀ c, c ∈ resolve (String.join texts) ↔ ∃ t ∈ texts, c ∈ resolve t) ∧
      (∀ texts' : List String, (∀ t, t ∈ texts' ↔ t ∈ texts) →
        resolveAll texts' = resolveAll texts ∧ resolve (String.join texts') = resolve (String.join texts)) ∧
      ∀ t ∈ texts, resolve (t ++ t) = resolve t := by
  refine ⟨(resolve_join h).symm, fun c => ?_, fun texts' hsame => ?_, fun t ht => ?_⟩
  · rw [resolve_join h, mem_resolveAll]
  · have h' : ∀ t ∈ texts', Ended t := fun t ht => h t ((hsame t).1 ht)
    rw [resolve_join h, resolve_join h']
    exact ⟨resolveAll_congr hsame, resolveAll_congr hsame⟩
  · have htwice : ∀ u ∈ [t, t], Ended u := by simpa using h t ht
    have honce : ∀ u ∈ [t], Ended u := by simpa using h t ht
    calc resolve (t ++ t) = resolve (String.join [t, t]) := by simp
      _ = resolveAll [t, t] := resolve_join htwice
      _ = resolveAll [t] := resolveAll_congr (by simp)
      _ = resolve (String.join [t]) := (resolve_join honce).symm
      _ = resolve t := by simp

/-- delimiters that overlap, a record that begins like what they leave over, an empty text, and an empty path -/
def overlapping : List String :=
  ["@delimiter@delimiter@", "delimiter@\n%a\n% #A#@delimiter@", "", "%\t% #R1#@delimiter@%b% #X#% #M#@delimiter@delimiter@"]

theorem resolveAll_overlapping :
    (∀ t ∈ overlapping, Ended t) ∧ resolveAll overlapping = resolve (String.join overlapping) ∧
      resolve (String.join overlapping) = ChangeSet.ofList [.added "a\n", .modified "b% #X#"] ∧
      resolve (String.join overlapping.reverse) = resolve (String.join overlapping) ∧
      ∀ t ∈ overlapping, resolve (t ++ t) = resolve t := by
  have hended : ∀ t ∈ overlapping, Ended t := by decide
  have hset : resolveAll overlapping = ChangeSet.ofList [.added "a\n", .modified "b% #X#"] := by decide +kernel
  obtain ⟨hjoin, -, hsame, htwice⟩ := resolveAll_eq_resolve_join overlapping hended
  exact ⟨hended, hjoin, hjoin.symm.trans hset, (hsame overlapping.reverse fun t => List.mem_reverse).2, htwice⟩

end ChangeLint.Status
