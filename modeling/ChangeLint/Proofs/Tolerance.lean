/-
Malformed input.

Listings and diffs come from outside, so their readers go on behind what they cannot read: a malformed record is skipped
and a malformed hunk header counts from zero, each with an entry in the log, and the rest is read as if nothing had been
there. `Tolerant` says so of one text, whatever it holds.

Results:
- `tolerates`: every text is resolved, and read as a diff unless a hunk starts at a number of too many digits;
- `longHeader_fatal`: such a number is not defaulted but ends the reading, in a header that is well-formed.
-/
import ChangeLint.Proofs.Change.Record
import ChangeLint.Proofs.Diff.HunkHeader

namespace ChangeLint

/-- what becomes of a framed text, as a listing and as a diff -/
structure Tolerant (framed : String) : Prop where
  /-- as a listing, it has the changes that its records tell -/
  resolved : ∀ change, change ∈ Status.resolve framed ↔ ∃ r ∈ Framing.records framed, Status.Tells r.toList change
  /-- a record that tells none is skipped, for a reason that is reported -/
  skipped : ∀ e, e ∈ Status.skippedLog framed ↔
    ∃ r ∈ Framing.records framed, ∃ reason, Status.Refused r reason ∧ reason.entry = e
  /-- so that every record is accounted for once -/
  accounted : (Status.changes framed).length + (Status.skippedLog framed).length = (Framing.records framed).length
  /-- as a diff, it is read unless a hunk starts at a number of too many digits -/
  parsed : (∃ ds, Diff.parse framed = .ok ds) ↔ ∀ l ∈ Framing.recordsOf framed.toList, ∀ old new,
    Diff.HunkHeader l old new → old.length ≤ Number.digitLimit ∧ new.length ≤ Number.digitLimit
  /-- what is read is what its sections say, and each malformed header is warned of -/
  described : ∀ ds, Diff.parse framed = .ok ds → ds = Diff.described (Framing.recordsOf framed.toList) ∧
    (Diff.read framed).log =
      ((Framing.recordsOf framed.toList).filter fun l => Diff.Malformed l).map
          (fun l => ⟨.warning, Diff.hunkWarning (String.ofList l)⟩) ++
        [⟨.debug, s!"Parsed diff for {ds.length} file(s)"⟩]
  /-- behind a malformed header the lines of both files are counted from zero -/
  zeroed : ∀ l ∈ Framing.recordsOf framed.toList, Diff.Malformed l → ∀ before side,
    Diff.nextNumber Prod.fst side (before ++ [l]) = some 0 ∧ Diff.nextNumber Prod.snd side (before ++ [l]) = some 0
  /-- what is not read fails at the first such number -/
  failed : ∀ e, Diff.parse framed = .error e ↔ ∃ before l after,
    Framing.recordsOf framed.toList = before ++ l :: after ∧ (∀ m ∈ before, Diff.LegibleLine m) ∧ Diff.Overlong l e

namespace Diff

variable {framed : String}

/-- the log of a diff that is read: the warnings, and how many files it has -/
theorem log_read_of_ok {ds : List FileDiff} (h : parse framed = .ok ds) :
    (read framed).log = warnings (Framing.recordsOf framed.toList) ++ [⟨.debug, s!"Parsed diff for {ds.length} file(s)"⟩] := by
  have htrace : (read framed).trace = (warnings (Framing.recordsOf framed.toList)).map .note ++
      [.note ⟨.debug, s!"Parsed diff for {ds.length} file(s)"⟩] := by
    rw [read, h, Act.bind_eq_of_ok (Act.result_notes _)]
    rfl
  have hnotes : ∀ log : List Entry, (log.map Event.note).filterMap Event.entry? = log := by
    intro log
    rw [List.filterMap_map]
    exact List.filterMap_some
  rw [Act.log, htrace, List.filterMap_append, hnotes]
  rfl

end Diff

/-- **Malformed input is not fatal**, but for one kind: every text is resolved, each of its records told or skipped with a
reason, and it is read as a diff, each malformed header counting from zero, if and only if no hunk starts at a number of
too many digits. -/
theorem tolerates (framed : String) : Tolerant framed where
  resolved _ := Status.mem_resolve_iff
  skipped _ := Status.mem_skippedLog_iff
  accounted := Status.length_changes_add framed
  parsed := by
    rw [Diff.exists_parse_iff]
    exact forall_congr' fun l => imp_congr_right fun _ => Diff.legibleLine_iff
  described := by
    intro ds hds
    have hlegible := Diff.exists_parse_iff.1 ⟨ds, hds⟩
    have hds' : ds = Diff.described (Framing.recordsOf framed.toList) := by
      obtain ⟨r, hrun, hfiles⟩ := Diff.foldlM_feed_records .start Diff.agrees_none hlegible
      rw [Diff.parse, Diff.ofRecords, hrun, Except.map, hfiles] at hds
      exact (Except.ok.inj hds).symm
    exact ⟨hds', by rw [Diff.log_read_of_ok hds, Diff.warnings_eq hlegible]⟩
  zeroed _ _ hmalformed before side := Diff.nextNumber_malformed hmalformed before side
  failed _ := Diff.parse_eq_error_iff

/-! ## Long starts -/

/-- a header that starts at a number of `n` digits -/
def longHeader (n : Nat) : List Char := "@@ -".toList ++ (List.replicate n '1' ++ " +1 @@".toList)

variable {n : Nat}

theorem isRun_ones (h : n ≠ 0) : Diff.IsRun (List.replicate n '1') := by
  refine ⟨fun hnil => h ((List.replicate_eq_nil_iff _).1 hnil), fun d hd => ?_⟩
  rw [List.eq_of_mem_replicate hd]
  rfl

theorem hunkHeader_longHeader (h : n ≠ 0) : Diff.HunkHeader (longHeader n) (List.replicate n '1') ['1'] :=
  ⟨_, ['1'], [], rfl, .bare (isRun_ones h), .bare (isRun_ones one_ne_zero)⟩

theorem not_mem_longHeader {c : Char} (h : c ∉ "@@ -1 +1 @@".toList) : c ∉ longHeader n := by
  intro hc
  rcases List.mem_append.1 hc with hc | hc
  · exact h (List.mem_append_left _ hc)
  rcases List.mem_append.1 hc with hc | hc
  · rw [List.eq_of_mem_replicate hc] at h
    exact h (by decide)
  · exact h (List.mem_append_right "@@ -1".toList hc)

/-- the first file diff of the text is lost with the header in it -/
theorem parse_longHeader (h : Number.digitLimit < n) :
    Diff.parse (Framing.frameLines (Diff.textOf ["diff --git a/f b/f".toList, longHeader n, " x".toList])) =
      .error (.reading n) := by
  have hrecords : Framing.recordsOf
      (Framing.frameLines (Diff.textOf ["diff --git a/f b/f".toList, longHeader n, " x".toList])).toList =
        ["diff --git a/f b/f".toList, longHeader n, " x".toList] := by
    refine Framing.recordsOf_frameLines ?_ ?_ ?_
    · simp only [List.forall_mem_cons]
      exact ⟨by decide, Framing.safe_of_not_mem (c := 'd') (by decide) (not_mem_longHeader (by decide)), by decide,
        List.forall_mem_nil _⟩
    · simp only [List.forall_mem_cons]
      exact ⟨by decide, not_mem_longHeader (by decide), by decide, List.forall_mem_nil _⟩
    · simp only [List.forall_mem_cons]
      exact ⟨by decide, List.cons_ne_nil _ _, by decide, List.forall_mem_nil _⟩
  have hlength : (List.replicate n '1').length = n := List.length_replicate
  have hover : Diff.Overlong (longHeader n) (.reading n) :=
    ⟨_, _, hunkHeader_longHeader (Nat.ne_zero_of_lt h), .inl ⟨by rwa [hlength], by rw [hlength]⟩⟩
  exact Diff.parse_eq_error_iff.2
    ⟨["diff --git a/f b/f".toList], longHeader n, [" x".toList], hrecords, by decide, hover⟩

/-- **A long start is fatal.** One header with a start of too many digits, and nothing of the diff is read; the header is
well-formed, so it is not one of those that count from zero. -/
theorem longHeader_fatal :
    Diff.HunkHeader (longHeader (Number.digitLimit + 1)) (List.replicate (Number.digitLimit + 1) '1') ['1'] ∧
      Diff.parse (Framing.frameLines
          (Diff.textOf ["diff --git a/f b/f".toList, longHeader (Number.digitLimit + 1), " x".toList])) =
        .error (.reading (Number.digitLimit + 1)) :=
  ⟨hunkHeader_longHeader (Nat.succ_ne_zero _), parse_longHeader (Nat.lt_succ_self _)⟩

end ChangeLint
