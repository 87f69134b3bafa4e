/-
Hunk headers: which are well-formed, and what becomes of the others.

`HunkHeader` is the grammar of a header, two starts with a count behind each or none; what follows the second mark does not
count. A line that begins like a header and is none is `Malformed`. The scan decides the grammar
(`hunkStarts?_eq_some_iff`), so nothing but a start with too many digits stops the reading of a diff.

Results:
- `nextNumber_malformed`: behind a malformed header both counters stand at zero;
- `exists_parse_iff`: a diff is read if and only if no start of a hunk has too many digits;
- `parse_eq_error_iff`: otherwise the first such start is what fails;
- `warnings_eq`: each malformed header is warned of, in order.
-/
import ChangeLint.Proofs.Diff.Description

namespace ChangeLint.Diff

/-! ## The grammar -/

/-- digits, at least one -/
def IsRun (ds : List Char) : Prop := ds ≠ [] ∧ ∀ d ∈ ds, Text.isDigit d = true

/-- a range and the digits of its start; a count may stand behind it -/
inductive IsRange : List Char → List Char → Prop
  | bare {start : List Char} (h : IsRun start) : IsRange start start
  | counted {start count : List Char} (h : IsRun start) (hcount : IsRun count) : IsRange (start ++ ',' :: count) start

/-- a well-formed hunk header and the digits of its starts -/
def HunkHeader (line old new : List Char) : Prop :=
  ∃ left right rest, line = "@@ -".toList ++ (left ++ (" +".toList ++ (right ++ (" @@".toList ++ rest)))) ∧
    IsRange left old ∧ IsRange right new

/-- a line that begins as a hunk header does and is not well-formed -/
def Malformed (line : List Char) : Prop := isHunk line = true ∧ ∀ old new, ¬ HunkHeader line old new

/-- a header with a start of more digits than a number may have, and what is said of the first such start -/
def Overlong (line : List Char) (e : Number.TooLong) : Prop :=
  ∃ old new, HunkHeader line old new ∧
    ((Number.digitLimit < old.length ∧ e = .reading old.length) ∨
      (old.length ≤ Number.digitLimit ∧ Number.digitLimit < new.length ∧ e = .reading new.length))

variable {cs ds rest old new start : List Char} {l : List Char} {ls : List (List Char)} {e : Number.TooLong} {framed : String}

/-! ## The scan -/

theorem someDigits?_sound (h : someDigits? cs = some (ds, rest)) : cs = ds ++ rest ∧ IsRun ds := by
  unfold someDigits? at h
  split at h
  case h_1 => cases h
  rename_i hne
  rw [Option.some.injEq, List.span_eq_takeWhile_dropWhile, Prod.mk.injEq] at h
  obtain ⟨rfl, rfl⟩ := h
  refine ⟨List.takeWhile_append_dropWhile.symm, fun hnil => ?_, fun d hd => List.mem_takeWhile_imp hd⟩
  exact hne _ (by rw [List.span_eq_takeWhile_dropWhile, hnil])

theorem rangeStart?_sound (h : rangeStart? cs = some (start, rest)) : ∃ range, cs = range ++ rest ∧ IsRange range start := by
  unfold rangeStart? at h
  split at h
  case h_1 => cases h
  rename_i ds after hds
  obtain ⟨rfl, hrun⟩ := someDigits?_sound hds
  split at h
  · rename_i count
    cases hcount : someDigits? count with
    | none =>
      rw [hcount] at h
      obtain ⟨rfl, rfl⟩ := Prod.mk.inj (Option.some.inj h)
      exact ⟨ds, rfl, .bare hrun⟩
    | some found =>
      rw [hcount] at h
      obtain ⟨rfl, rfl⟩ := Prod.mk.inj (Option.some.inj h)
      obtain ⟨rfl, hfound⟩ := someDigits?_sound hcount
      exact ⟨ds ++ ',' :: found.1, by simp, .counted hrun hfound⟩
  · obtain ⟨rfl, rfl⟩ := Prod.mk.inj (Option.some.inj h)
    exact ⟨ds, rfl, .bare hrun⟩

/-- a range ends where a blank follows -/
theorem rangeStart?_of_isRange {range : List Char} (h : IsRange range start) (rest : List Char) :
    rangeStart? (range ++ ' ' :: rest) = some (start, ' ' :: rest) := by
  cases h with
  | bare h =>
    simp only [rangeStart?, someDigits?_append h.2 h.1 (c := ' ') (by decide)]
    rfl
  | counted h hcount =>
    rw [List.append_assoc, List.cons_append]
    simp only [rangeStart?, someDigits?_append h.2 h.1 (c := ',') (by decide),
      someDigits?_append hcount.2 hcount.1 (c := ' ') (by decide)]

/-- **The scan decides the grammar** and finds the starts -/
theorem hunkStarts?_eq_some_iff : hunkStarts? l = some (old, new) ↔ HunkHeader l old new := by
  constructor
  · intro h
    unfold hunkStarts? at h
    split at h
    case isFalse => cases h
    rename_i hfront
    obtain ⟨body, rfl⟩ := List.isPrefixOf_iff_prefix.1 hfront
    rw [show ("@@ -".toList ++ body).drop 4 = body from List.drop_left' rfl] at h
    split at h
    case h_2 => cases h
    rename_i first middle hfirst
    split at h
    case h_2 => cases h
    rename_i second after hsecond
    split at h
    case isFalse => cases h
    rename_i hback
    obtain ⟨rfl, rfl⟩ := Prod.mk.inj (Option.some.inj h)
    obtain ⟨left, rfl, hleft⟩ := rangeStart?_sound hfirst
    obtain ⟨right, rfl, hright⟩ := rangeStart?_sound hsecond
    obtain ⟨heading, rfl⟩ := List.isPrefixOf_iff_prefix.1 hback
    exact ⟨left, right, heading, rfl, hleft, hright⟩
  · rintro ⟨left, right, heading, rfl, hleft, hright⟩
    have hfront : "@@ -".toList.isPrefixOf
        ("@@ -".toList ++ (left ++ (" +".toList ++ (right ++ (" @@".toList ++ heading))))) = true :=
      List.isPrefixOf_iff_prefix.2 (List.prefix_append _ _)
    have hback : " @@".toList.isPrefixOf (" @@".toList ++ heading) = true :=
      List.isPrefixOf_iff_prefix.2 (List.prefix_append _ _)
    have hfirst : rangeStart? (left ++ (" +".toList ++ (right ++ (" @@".toList ++ heading)))) =
        some (old, ' ' :: '+' :: (right ++ (" @@".toList ++ heading))) := rangeStart?_of_isRange hleft _
    have hsecond : rangeStart? (right ++ (" @@".toList ++ heading)) = some (new, " @@".toList ++ heading) :=
      rangeStart?_of_isRange hright _
    rw [hunkStarts?, if_pos hfront, show ∀ body, ("@@ -".toList ++ body).drop 4 = body from fun _ => List.drop_left' rfl,
      hfirst]
    simp only [hsecond, hback, ite_true]

theorem hunkStarts?_eq_none_iff : hunkStarts? l = none ↔ ∀ old new, ¬ HunkHeader l old new := by
  rw [Option.eq_none_iff_forall_ne_some]
  exact ⟨fun h old new hheader => h (old, new) (hunkStarts?_eq_some_iff.2 hheader),
    fun h starts hstarts => h starts.1 starts.2 (hunkStarts?_eq_some_iff.1 hstarts)⟩

instance : DecidablePred Malformed := fun l =>
  decidable_of_iff (isHunk l = true ∧ hunkStarts? l = none) (and_congr_right fun _ => hunkStarts?_eq_none_iff)

/-- a well-formed header begins a hunk, and no section -/
theorem HunkHeader.begins (h : HunkHeader l old new) : isHunk l = true ∧ isTitle l = false := by
  obtain ⟨left, right, rest, rfl, -, -⟩ := h
  exact ⟨rfl, rfl⟩

/-! ## Starts -/

/-- a line is legible unless it is a header with too many digits in a start -/
theorem legibleLine_iff : LegibleLine l ↔ ∀ old new, HunkHeader l old new →
    old.length ≤ Number.digitLimit ∧ new.length ≤ Number.digitLimit := by
  unfold LegibleLine
  simp only [Option.mem_def, Prod.forall, hunkStarts?_eq_some_iff]

/-- **A malformed header counts from zero**, on both sides -/
theorem nextNumber_malformed (h : Malformed l) (before : List (List Char)) (side : LineKind → Bool) :
    nextNumber Prod.fst side (before ++ [l]) = some 0 ∧ nextNumber Prod.snd side (before ++ [l]) = some 0 := by
  have hzero : startsOf l = (0, 0) := by simp only [startsOf, hunkStarts?_eq_none_iff.2 h.2]
  rw [nextNumber_hunk h.1, nextNumber_hunk h.1, hzero]
  exact ⟨rfl, rfl⟩

theorem readHunk_of_overlong (h : Overlong l e) : readHunk l = .error e := by
  obtain ⟨old, new, hheader, htoo⟩ := h
  rw [readHunk, hunkStarts?_eq_some_iff.2 hheader]
  rcases htoo with ⟨hold, rfl⟩ | ⟨hold, hnew, rfl⟩
  · simp only [Number.ofDigits, if_pos hold]
    rfl
  · simp only [Number.ofDigits, if_neg (not_lt.2 hold), if_pos hnew]
    rfl

/-- a line is legible or has a start that is too long -/
theorem legible_or_overlong (l : List Char) : LegibleLine l ∨ ∃ e, Overlong l e := by
  by_cases h : LegibleLine l
  · exact .inl h
  · right
    rw [legibleLine_iff] at h
    push Not at h
    obtain ⟨old, new, hheader, htoo⟩ := h
    by_cases hold : old.length ≤ Number.digitLimit
    · exact ⟨_, old, new, hheader, .inr ⟨hold, htoo hold, rfl⟩⟩
    · exact ⟨_, old, new, hheader, .inl ⟨not_le.1 hold, rfl⟩⟩

/-! ## A diff -/

/-- a record with a start that is too long fails in every state -/
theorem feed_of_overlong (r : Reading) (h : Overlong l e) : r.feed l = .error e := by
  obtain ⟨old, new, hheader, -⟩ := id h
  obtain ⟨hhunk, htitle⟩ := hheader.begins
  have hmark : hunkMark.isPrefixOf l = true := hhunk
  have hsection : ¬ sectionMark.isPrefixOf l = true := by
    rw [← isTitle, htitle]
    exact Bool.false_ne_true
  have hadd : r.current.add l = .error e := by
    unfold Section.add
    simp only [hmark, readHunk_of_overlong h]
    cases r.current.inHeader <;> rfl
  rw [Reading.feed, if_neg hsection, hadd]
  rfl

theorem foldlM_feed_of_overlong {before after : List (List Char)} (r : Reading) (hbefore : ∀ m ∈ before, LegibleLine m)
    (hover : Overlong l e) : (before ++ l :: after).foldlM Reading.feed r = .error e := by
  obtain ⟨r', hr'⟩ := exists_foldlM_feed r hbefore
  rw [List.foldlM_append, hr', ok_bind, List.foldlM_cons, feed_of_overlong r' hover]
  rfl

/-- **A run of records fails** at the first one with a start that is too long, and at no other -/
theorem foldlM_feed_eq_error_iff (r : Reading) : ls.foldlM Reading.feed r = .error e ↔
    ∃ before l after, ls = before ++ l :: after ∧ (∀ m ∈ before, LegibleLine m) ∧ Overlong l e := by
  constructor
  · intro h
    rcases forall_or_exists_first LegibleLine ls with hall | ⟨before, l, after, rfl, hbefore, hl⟩
    · obtain ⟨r', hr'⟩ := exists_foldlM_feed r hall
      rw [hr'] at h
      cases h
    · obtain ⟨e', hover⟩ := (legible_or_overlong l).resolve_left hl
      obtain rfl : e = e' := Except.error.inj (h.symm.trans (foldlM_feed_of_overlong r hbefore hover))
      exact ⟨before, l, after, rfl, hbefore, hover⟩
  · rintro ⟨before, l, after, rfl, hbefore, hover⟩
    exact foldlM_feed_of_overlong r hbefore hover

theorem parse_eq_error_iff : parse framed = .error e ↔ ∃ before l after,
    Framing.recordsOf framed.toList = before ++ l :: after ∧ (∀ m ∈ before, LegibleLine m) ∧ Overlong l e := by
  rw [← foldlM_feed_eq_error_iff .start, parse, ofRecords]
  cases (Framing.recordsOf framed.toList).foldlM Reading.feed .start <;> simp [Except.map]

/-- a run that has not failed has met legible records only -/
theorem legibleLine_of_foldlM {r r' : Reading} (h : ls.foldlM Reading.feed r = .ok r') : ∀ l ∈ ls, LegibleLine l := by
  rcases forall_or_exists_first LegibleLine ls with hall | ⟨before, l, after, rfl, hbefore, hl⟩
  · exact hall
  · obtain ⟨e, hover⟩ := (legible_or_overlong l).resolve_left hl
    rw [foldlM_feed_of_overlong r hbefore hover] at h
    cases h

/-- **A diff is read** if and only if no start of a hunk is too long, whatever else it holds -/
theorem exists_parse_iff : (∃ ds, parse framed = .ok ds) ↔ ∀ l ∈ Framing.recordsOf framed.toList, LegibleLine l := by
  refine ⟨fun ⟨ds, hds⟩ => ?_, exists_parse⟩
  cases hrun : (Framing.recordsOf framed.toList).foldlM Reading.feed .start with
  | ok r => exact legibleLine_of_foldlM hrun
  | error e =>
    rw [parse, ofRecords, hrun] at hds
    cases hds

/-- **Malformed headers are warned of**, each once and in order -/
theorem warnings_eq (h : ∀ l ∈ ls, LegibleLine l) :
    warnings ls = (ls.filter fun l => Malformed l).map fun l => ⟨.warning, hunkWarning (String.ofList l)⟩ := by
  induction ls with
  | nil => rfl
  | cons l ls ih =>
    obtain ⟨hl, hls⟩ := List.forall_mem_cons.1 h
    have hmalformed : Malformed l ↔ isHunk l = true ∧ hunkStarts? l = none :=
      and_congr_right fun _ => hunkStarts?_eq_none_iff.symm
    rw [warnings, readHunk_of_legible hl, ih hls, List.filter_cons]
    cases hhunk : isHunk l with
    | false =>
      have hmark : hunkMark.isPrefixOf l = false := hhunk
      rw [if_neg (by simp [hmark]), if_neg (by simp [hmalformed, hhunk])]
    | true =>
      have hmark : hunkMark.isPrefixOf l = true := hhunk
      rw [if_pos hmark]
      cases hstarts : hunkStarts? l with
      | none =>
        rw [if_pos (decide_eq_true (hmalformed.2 ⟨hhunk, hstarts⟩))]
        rfl
      | some starts => rw [if_neg (by simp [hmalformed, hstarts])]

end ChangeLint.Diff
