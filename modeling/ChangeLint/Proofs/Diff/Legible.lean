/-
Diffs that can be read. The only thing in a diff that cannot be read is a start of a hunk with too many digits; a diff
without one is read (`exists_parse`), whatever else it holds, and the action that reads it yields the same
(`read_framed`).
-/
import ChangeLint.Diff.Parse
import ChangeLint.Proofs.Act
import ChangeLint.Proofs.Framing
import Mathlib.Tactic

namespace ChangeLint.Diff

/-- the starts that a record gives, if it is a hunk header, do not have too many digits -/
def LegibleLine (l : List Char) : Prop :=
  ∀ starts ∈ hunkStarts? l, starts.1.length ≤ Number.digitLimit ∧ starts.2.length ≤ Number.digitLimit

instance : DecidablePred LegibleLine := fun l =>
  inferInstanceAs (Decidable (∀ starts ∈ hunkStarts? l, starts.1.length ≤ Number.digitLimit ∧
    starts.2.length ≤ Number.digitLimit))

/-- the records that the lines of a text are framed as are legible -/
def Legible (raw : String) : Prop := ∀ l ∈ Framing.recordsOf (Framing.frameLines raw).toList, LegibleLine l

instance : DecidablePred Legible := fun raw =>
  inferInstanceAs (Decidable (∀ l ∈ Framing.recordsOf (Framing.frameLines raw).toList, LegibleLine l))

/-- the file diffs of a text, none if it cannot be read -/
def fileDiffs (raw : String) : List FileDiff := (parse (Framing.frameLines raw)).toOption.getD []

variable {l : List Char} {ls : List (List Char)} {raw : String}

theorem ofDigits_of_length_le {ds : List Char} (h : ds.length ≤ Number.digitLimit) :
    Number.ofDigits ds = .ok (Text.ofDigits ds) := by
  rw [Number.ofDigits, if_neg (not_lt.2 h)]

theorem exists_readHunk (h : LegibleLine l) : ∃ starts, readHunk l = .ok starts := by
  unfold readHunk
  cases hstarts : hunkStarts? l with
  | none => exact ⟨(0, 0), rfl⟩
  | some starts =>
    obtain ⟨hold, hnew⟩ := h starts hstarts
    simp only [ofDigits_of_length_le hold, ofDigits_of_length_le hnew]
    exact ⟨_, rfl⟩

theorem exists_add (s : Section) (h : LegibleLine l) : ∃ s', s.add l = .ok s' := by
  obtain ⟨starts, hstarts⟩ := exists_readHunk h
  simp only [Section.add]
  split
  · rw [hstarts]
    exact ⟨_, rfl⟩
  · split <;> exact ⟨_, rfl⟩

theorem exists_feed (r : Reading) (h : LegibleLine l) : ∃ r', r.feed l = .ok r' := by
  unfold Reading.feed
  split
  · exact ⟨_, rfl⟩
  · obtain ⟨s, hs⟩ := exists_add r.current h
    rw [hs]
    exact ⟨_, rfl⟩

theorem exists_foldlM_feed (r : Reading) (h : ∀ l ∈ ls, LegibleLine l) : ∃ r', ls.foldlM Reading.feed r = .ok r' := by
  induction ls generalizing r with
  | nil => exact ⟨r, rfl⟩
  | cons l ls ih =>
    obtain ⟨r', hr'⟩ := exists_feed r (h l List.mem_cons_self)
    obtain ⟨r'', hr''⟩ := ih r' fun m hm => h m (List.mem_cons_of_mem l hm)
    exact ⟨r'', by rw [List.foldlM_cons, hr']; exact hr''⟩

/-- **A legible diff is read** -/
theorem exists_parse {framed : String} (h : ∀ l ∈ Framing.recordsOf framed.toList, LegibleLine l) :
    ∃ ds, parse framed = .ok ds := by
  obtain ⟨r, hr⟩ := exists_foldlM_feed .start h
  exact ⟨r.files.toList, by rw [parse, ofRecords, hr]; rfl⟩

theorem parse_frameLines (h : Legible raw) : parse (Framing.frameLines raw) = .ok (fileDiffs raw) := by
  obtain ⟨ds, hds⟩ := exists_parse h
  rw [fileDiffs, hds]
  rfl

theorem legible_empty : Legible "" := by
  have hnone : Framing.recordsOf (Framing.frameLines "").toList = [] :=
    @Framing.recordsOf_frameLines [] (by simp) (by simp) (by simp)
  intro l hl
  rw [hnone] at hl
  exact absurd hl List.not_mem_nil

/-- reading a legible diff yields its file diffs and runs nothing -/
theorem read_framed (h : Legible raw) :
    (read (Framing.frameLines raw)).result = .ok (fileDiffs raw) ∧ (read (Framing.frameLines raw)).calls = [] := by
  rw [read, Act.result_bind, Act.calls_bind_of_ok (Act.result_notes _), Act.result_notes, Act.calls_notes,
    parse_frameLines h]
  exact ⟨rfl, rfl⟩

end ChangeLint.Diff
