/-
Renames in listings.

The two paths of a rename stand in one field of its record, joined by a tab, and are read only if that is the only tab
there (`no_tab_of_readRecord`). So blanks of every other kind survive in the paths, and a tab loses the rename.

Results:
- `renamed_mem_resolve_iff`: a rename in a listing is read, with both its paths, if and only if neither holds a tab;
  whatever else is in the listing;
- `tabbed_rename_lost`: a rename of a path with a tab is not read.
-/
import ChangeLint.Proofs.Change.Listing

namespace ChangeLint.Status

open ChangeLint.Text

variable {rows : List Row} {score old new : List Char} {framed record o n : String} {changed : Bool}

/-- the paths of a rename that is read hold no tab -/
theorem no_tab_of_readRecord (h : readRecord record = .ok (.renamed o n changed)) : '\t' ∉ o.toList ∧ '\t' ∉ n.toList := by
  unfold readRecord at h
  split at h
  · cases h
  · split at h
    · cases h
    · cases h
    · cases h
    · split at h
      · rename_i old new hpieces
        have hpath : ∀ path ∈ [old, new], '\t' ∉ path := by
          rw [← hpieces, pieces_eq_splitOn]
          exact fun path => not_mem_of_mem_splitOn
        split at h
        · cases h
        · cases h
          rw [String.toList_ofList, String.toList_ofList]
          exact ⟨hpath old (by simp), hpath new (by simp)⟩
      · cases h
    · cases h

theorem no_tab_of_mem_resolve (h : .renamed o n changed ∈ resolve framed) : '\t' ∉ o.toList ∧ '\t' ∉ n.toList := by
  rw [resolve, ChangeSet.mem_ofList, changes, List.mem_filterMap] at h
  obtain ⟨record, -, hrecord⟩ := h
  cases hread : readRecord record with
  | error e =>
    rw [hread] at hrecord
    cases hrecord
  | ok c =>
    rw [hread] at hrecord
    cases hrecord
    exact no_tab_of_readRecord hread

/-- every record ends with a hash sign -/
theorem exists_record_eq_concat {l : List Char} (hl : l ∈ rows.map Row.record) :
    ∃ p c, c ∉ Framing.delimiter ∧ l = p ++ [c] := by
  obtain ⟨r, -, rfl⟩ := List.mem_map.1 hl
  exact ⟨_, '#', by decide, record_eq r⟩

/-- the record of a row without the delimiter is read, whatever the other rows hold -/
theorem mem_records_frame (hmarked : ∀ r ∈ rows, r.Marked) (hnul : ∀ r ∈ rows, ∀ p ∈ r.paths, '\x00' ∉ p) {r : Row}
    (hr : r ∈ rows) (hpaths : ∀ p ∈ r.paths, ¬ Framing.delimiter <:+: p) :
    String.ofList r.record ∈ Framing.records (frame (String.ofList (wire rows))) := by
  rw [Framing.records, toList_frame_wire hmarked hnul]
  exact List.mem_map_of_mem (Framing.mem_recordsOf_framed (fun l => exists_record_eq_concat) (List.mem_map_of_mem hr)
    (safe_record (hmarked r hr) hpaths).1 (dropBreak_record r))

/-- what is reported of a rename that is not read -/
theorem entry_mem_skippedLog (hmarked : (Row.renamed score old new).Marked) (htab : ¬ ('\t' ∉ old ∧ '\t' ∉ new))
    (hrecord : String.ofList (Row.renamed score old new).record ∈ Framing.records framed) :
    (Skipped.renameWithoutPair (String.ofList (Row.renamed score old new).record)).entry ∈ skippedLog framed := by
  have hread : readRecord (String.ofList (Row.renamed score old new).record) =
      .error (.renameWithoutPair (String.ofList (Row.renamed score old new).record)) := by
    rw [readRecord, String.toList_ofList, fields?_record hmarked]
    simp only [Row.status, Row.paths, List.intercalate_cons_cons, List.intercalate_singleton, List.append_assoc,
      List.singleton_append]
    split
    · rename_i hpieces
      exact absurd (pieces_join hpieces) htab
    · rfl
  exact List.mem_filterMap.2 ⟨_, hrecord, by rw [hread]⟩

/-- **Renames survive if and only if no tab is in their paths.** A rename in a listing is read with exactly its two paths,
whatever other blanks they hold, unless one of them holds a tab; then no rename of these paths is read, and a note for
the log is all that is left of it. -/
theorem renamed_mem_resolve_iff (rows : List Row) (hmarked : ∀ r ∈ rows, r.Marked)
    (hnul : ∀ r ∈ rows, ∀ p ∈ r.paths, '\x00' ∉ p) (hrow : .renamed score old new ∈ rows) (hold : IsPath old)
    (hnew : IsPath new) :
    ((∃ changed, .renamed (String.ofList old) (String.ofList new) changed ∈ resolve (frame (String.ofList (wire rows)))) ↔
        '\t' ∉ old ∧ '\t' ∉ new) ∧
      ('\t' ∉ old ∧ '\t' ∉ new → .renamed (String.ofList old) (String.ofList new) (contentModified score) ∈
        resolve (frame (String.ofList (wire rows)))) ∧
      (¬ ('\t' ∉ old ∧ '\t' ∉ new) → (Skipped.renameWithoutPair (String.ofList (Row.renamed score old new).record)).entry ∈
        skippedLog (frame (String.ofList (wire rows)))) := by
  have hrecord := mem_records_frame hmarked hnul hrow (by simp [Row.paths, hold.no_delimiter, hnew.no_delimiter])
  have hread : '\t' ∉ old ∧ '\t' ∉ new → .renamed (String.ofList old) (String.ofList new) (contentModified score) ∈
      resolve (frame (String.ofList (wire rows))) := by
    intro htab
    rw [resolve, ChangeSet.mem_ofList, changes, List.mem_filterMap]
    refine ⟨_, hrecord, ?_⟩
    rw [toOption_readRecord (hmarked _ hrow),
      told?_of_parted (r := .renamed score old new) ⟨⟨hold.nonempty, hnew.nonempty⟩, htab⟩]
    rfl
  refine ⟨⟨?_, fun htab => ⟨_, hread htab⟩⟩, hread, fun htab => entry_mem_skippedLog (hmarked _ hrow) htab hrecord⟩
  rintro ⟨changed, h⟩
  simpa only [String.toList_ofList] using no_tab_of_mem_resolve h

/-- renames with spaces and line breaks, and with a tab, behind a path with the delimiter in it -/
def blankRows : List Row :=
  [.added "x@delimiter@y".toList, .renamed "087".toList " a\nb".toList "\u00a0c\r\n".toList,
    .renamed "100".toList "a\tb".toList ['c']]

theorem renamed_mem_resolve_blankRows :
    (∀ r ∈ blankRows, r.Marked) ∧ (∀ r ∈ blankRows, ∀ p ∈ r.paths, '\x00' ∉ p) ∧
      (IsPath " a\nb".toList ∧ IsPath "\u00a0c\r\n".toList) ∧ (IsPath "a\tb".toList ∧ IsPath ['c']) ∧
      .renamed " a\nb" "\u00a0c\r\n" true ∈ resolve (frame (String.ofList (wire blankRows))) ∧
      ¬ ∃ changed, .renamed "a\tb" "c" changed ∈ resolve (frame (String.ofList (wire blankRows))) := by
  have hmarked : ∀ r ∈ blankRows, r.Marked := by decide
  have hnul : ∀ r ∈ blankRows, ∀ p ∈ r.paths, '\x00' ∉ p := by decide
  have hspaced : IsPath " a\nb".toList ∧ IsPath "\u00a0c\r\n".toList := by decide
  have htabbed : IsPath "a\tb".toList ∧ IsPath ['c'] := by decide
  have hspacedRow : .renamed "087".toList " a\nb".toList "\u00a0c\r\n".toList ∈ blankRows := by decide
  have htabbedRow : .renamed "100".toList "a\tb".toList ['c'] ∈ blankRows := by decide
  have hread := renamed_mem_resolve_iff blankRows hmarked hnul hspacedRow hspaced.1 hspaced.2
  have hlost := renamed_mem_resolve_iff blankRows hmarked hnul htabbedRow htabbed.1 htabbed.2
  exact ⟨hmarked, hnul, hspaced, htabbed, hread.2.1 (by decide), fun h => absurd (hlost.1.1 h) (by decide)⟩

/-- **A tab loses the rename.** Of the rename of a file whose name holds a tab nothing is read, though the listing is as
version control writes it. -/
theorem tabbed_rename_lost :
    String.ofList (wire [.renamed "100".toList "a\tb".toList ['c']]) = "R100\x00a\tb\x00c\x00" ∧
      IsPath "a\tb".toList ∧ IsPath ['c'] ∧ resolve (frame "R100\x00a\tb\x00c\x00") = ChangeSet.empty ∧
      ¬ .renamed "a\tb" "c" false ∈ resolve (frame "R100\x00a\tb\x00c\x00") := by
  have hempty : resolve (frame "R100\x00a\tb\x00c\x00") = ChangeSet.empty := by decide +kernel
  refine ⟨by decide, by decide, by decide, hempty, ?_⟩
  rw [hempty]
  exact List.not_mem_nil

end ChangeLint.Status
