/-
Listings that break off.

A listing that is cut right behind one of its NULs has the fields of its first rows, and of the next row the first fields or
none (`exists_opening`). The cut leaves one more field, the empty one behind the last NUL. When exactly one path of the next
row is missing, that field is taken for it (`listings_opening`); when more are missing, the row is dropped.

Results:
- `resolve_frame_cut`: a cut listing has the changes of the rows that lie completely before the cut, and one more, of the
  empty path, if the cut is right behind the status of an added, deleted or modified file;
- `cut_adds_empty_path`: a listing that is cut there adds a file without a name.
-/
import ChangeLint.Proofs.Change.Listing

namespace ChangeLint.Status

open ChangeLint.Text

variable {rows done tail : List Row} {r : Row} {cut begun : List Char} {fields : List (List Char)}

/-! ## Rows at a cut -/

/-- the row lies completely before the cut -/
def Whole (rows : List Row) (cut : List Char) (r : Row) : Prop :=
  ∃ done rest, rows = done ++ r :: rest ∧ wire (done ++ [r]) <+: cut

/-- the cut is right behind the status of the row -/
def Pathless (rows : List Row) (cut : List Char) (r : Row) : Prop :=
  ∃ done rest, rows = done ++ r :: rest ∧ cut = wire done ++ (r.status ++ ['\x00'])

/-- the row with nothing for its last path -/
def Row.emptied : Row → Row
  | .added _ => .added []
  | .deleted _ => .deleted []
  | .modified _ => .modified []
  | .other s _ => .other s []
  | .renamed score old _ => .renamed score old []
  | .copied score old _ => .copied score old []

/-- the change of no file that is read of the status of a row and an empty path -/
def Row.stub? : Row → Option FileChange
  | .added _ => some (.added "")
  | .deleted _ => some (.deleted "")
  | .modified _ => some (.modified "")
  | _ => none

theorem fields_emptied (r : Row) : r.emptied.fields = r.fields.dropLast ++ [[]] := by cases r <;> rfl

theorem marked_emptied (h : r.Marked) : r.emptied.Marked := by cases r <;> exact h

theorem mem_paths_emptied {p : List Char} (h : p ∈ r.emptied.paths) : p ∈ r.paths ∨ p = [] := by
  cases r with
  | renamed score old new | copied score old new =>
    simp only [Row.emptied, Row.paths, List.mem_cons, List.not_mem_nil, or_false] at h ⊢
    tauto
  | _ => exact Or.inr (List.mem_singleton.1 h)

/-- a rename without its second path tells nothing -/
theorem told?_emptied (r : Row) : r.emptied.told? = r.stub? := by
  cases r with
  | renamed score old new => exact told?_of_not_parted (r := .renamed score old []) fun h => h.1.2 rfl
  | _ => rfl

theorem length_fields_of_stub? {c : FileChange} (h : r.stub? = some c) : r.fields.length = 2 := by
  cases r with
  | renamed score old new => cases h
  | copied score old new => cases h
  | other s p => cases h
  | _ => rfl

theorem wire_append (rows rows' : List Row) : wire (rows ++ rows') = wire rows ++ wire rows' := by
  rw [wire, List.flatMap_append, List.flatMap_append]
  rfl

/-- **The whole rows are those in front of the row that the cut is in** -/
theorem whole_iff (hrows : rows = done ++ tail) (hcut : cut = wire done ++ begun)
    (hbegun : ∀ s rest, tail = s :: rest → ¬ wire [s] <+: begun) : Whole rows cut r ↔ r ∈ done := by
  subst hrows hcut
  constructor
  · rintro ⟨front, rest, hfront, hpre⟩
    rcases List.append_eq_append_iff.1 hfront with ⟨s, rfl, htail⟩ | ⟨s, rfl, hdone⟩
    · -- the row is not among the whole ones, so the next of them would end before the cut
      rw [List.append_assoc, wire_append, List.prefix_append_right_inj] at hpre
      cases s with
      | nil => exact absurd hpre (hbegun r rest htail)
      | cons t s =>
        rw [List.cons_append, ← List.singleton_append, wire_append] at hpre
        exact absurd ((List.prefix_append _ _).trans hpre) (hbegun t _ htail)
    · cases s with
      | nil =>
        rw [List.append_nil, wire_append, List.prefix_append_right_inj] at hpre
        exact absurd hpre (hbegun r rest hdone.symm)
      | cons t s =>
        obtain ⟨rfl, -⟩ := List.cons.inj hdone
        exact List.mem_append_right front List.mem_cons_self
  · intro hr
    obtain ⟨front, s, rfl⟩ := List.append_of_mem hr
    refine ⟨front, s ++ tail, by simp, ?_⟩
    have hsplit : front ++ r :: s = front ++ [r] ++ s := by simp
    rw [hsplit, wire_append (front ++ [r]), List.append_assoc]
    exact List.prefix_append _ _

/-! ## Fields at a cut -/

/-- the first fields of rows: those of the whole ones, and those of the next one that stand before the cut -/
structure Opening (rows : List Row) (fields : List (List Char)) (done tail : List Row) (begun : List (List Char)) :
    Prop where
  rows_eq : rows = done ++ tail
  fields_eq : fields = done.flatMap Row.fields ++ begun
  begun_of_cons : ∀ r rest, tail = r :: rest → begun <+: r.fields ∧ begun.length < r.fields.length
  begun_of_nil : tail = [] → begun = []

theorem exists_opening (rows : List Row) (k : Nat) :
    ∃ done tail begun, Opening rows ((rows.flatMap Row.fields).take k) done tail begun := by
  induction rows generalizing k with
  | nil => exact ⟨[], [], [], rfl, by simp, by simp, fun _ => rfl⟩
  | cons r rows ih =>
    rw [List.flatMap_cons, List.take_append]
    rcases Nat.lt_or_ge k r.fields.length with hk | hk
    · refine ⟨[], r :: rows, r.fields.take k, rfl, by simp [Nat.sub_eq_zero_of_le hk.le], ?_, by simp⟩
      rintro s rest hs
      obtain ⟨rfl, -⟩ := List.cons.inj hs
      exact ⟨List.take_prefix k _, by rw [List.length_take]; omega⟩
    · obtain ⟨done, tail, begun, h⟩ := ih (k - r.fields.length)
      refine ⟨r :: done, tail, begun, ?_, ?_, h.begun_of_cons, h.begun_of_nil⟩
      · rw [h.rows_eq, List.cons_append]
      · rw [List.take_of_length_le hk, h.fields_eq, List.flatMap_cons, List.append_assoc]

theorem prefix_of_opening {begun : List (List Char)} (ho : Opening rows fields done tail begun) :
    fields <+: rows.flatMap Row.fields := by
  rw [ho.rows_eq, ho.fields_eq, List.flatMap_append, List.prefix_append_right_inj]
  cases tail with
  | nil => rw [ho.begun_of_nil rfl]; exact List.nil_prefix
  | cons r rest => exact (ho.begun_of_cons r rest rfl).1.trans (List.prefix_append _ _)

/-- the rows that are read of what stands in front of a cut, behind the whole ones: the next one if but its last path is
missing -/
def stubs (begun : List (List Char)) : List Row → List Row
  | [] => []
  | r :: _ => if begun.length + 1 = r.fields.length then [r.emptied] else []

/-- the empty field behind the cut counts as the last path, if that is missing -/
theorem listings_begun {begun : List (List Char)} (h : r.Marked) (hpre : begun <+: r.fields)
    (hlength : begun.length < r.fields.length) (rest : List Row) :
    (listings (begun ++ [[]])).1 = (stubs begun (r :: rest)).map Row.listing := by
  rw [stubs]
  by_cases hone : begun.length + 1 = r.fields.length
  · have hbegun : begun = r.fields.dropLast := by
      rw [List.prefix_iff_eq_take.1 hpre, List.dropLast_eq_take, ← hone, Nat.add_sub_cancel]
    rw [if_pos hone, hbegun, ← fields_emptied, ← List.append_nil r.emptied.fields,
      listings_fields_append (marked_emptied h), listings]
    rfl
  · rw [if_neg hone]
    cases begun with
    | nil => rw [List.nil_append, listings_nil]; rfl
    | cons status paths =>
      obtain ⟨rfl, -⟩ := List.cons_prefix_cons.1 hpre
      -- two paths at least are missing, so that one more field is not enough
      have hshort : (List.take r.paths.length (paths ++ [[]])).length ≠ r.paths.length := by
        simp only [Row.fields, List.length_cons] at hone hlength
        rw [List.length_take, List.length_append, List.length_singleton]
        omega
      rw [List.cons_append, listings]
      simp only [trim_status h, List.isEmpty_iff, status_ne_nil h, ite_false, width_status h, hshort]
      rfl

theorem listings_opening {begun : List (List Char)} (h : ∀ r ∈ rows, r.Marked) (ho : Opening rows fields done tail begun) :
    (listings (fields ++ [[]])).1 = (done ++ stubs begun tail).map Row.listing := by
  have hdone : ∀ s ∈ done, s.Marked := fun s hs => h s (ho.rows_eq ▸ List.mem_append_left tail hs)
  rw [ho.fields_eq, List.append_assoc, listings_flatMap_append hdone, List.map_append]
  cases tail with
  | nil => rw [ho.begun_of_nil rfl, List.nil_append, listings_nil]; rfl
  | cons r rest =>
    obtain ⟨hpre, hlength⟩ := ho.begun_of_cons r rest rfl
    rw [listings_begun (h r (ho.rows_eq ▸ List.mem_append_right done List.mem_cons_self)) hpre hlength rest]

/-! ## Changes at a cut -/

theorem no_nul_of_wellFormed (h : ∀ r ∈ rows, r.WellFormed) : ∀ f ∈ rows.flatMap Row.fields, '\x00' ∉ f :=
  no_nul_of_mem_flatMap (fun r hr => (h r hr).marked) fun r hr p hp => (isPath_of_mem_paths (h r hr) p hp).no_nul

theorem exists_of_mem_stubs {begun : List (List Char)} (h : r ∈ stubs begun tail) :
    ∃ s rest, tail = s :: rest ∧ begun.length + 1 = s.fields.length ∧ r = s.emptied := by
  cases tail with
  | nil => cases h
  | cons s rest =>
    rw [stubs] at h
    split at h
    · rename_i hone
      exact ⟨s, rest, rfl, hone, List.mem_singleton.1 h⟩
    · cases h

/-- the changes of a listing up to a place between two of its fields -/
theorem changes_opening {begun : List (List Char)} (h : ∀ r ∈ rows, r.WellFormed)
    (ho : Opening rows fields done tail begun) :
    changes (frame (String.ofList (fields.flatMap fun f => f ++ ['\x00']))) =
      (done ++ stubs begun tail).filterMap Row.told? := by
  have hnul : ∀ f ∈ fields, '\x00' ∉ f := fun f hf => no_nul_of_wellFormed h f ((prefix_of_opening ho).subset hf)
  have hread : ∀ s ∈ done ++ stubs begun tail, s.Marked ∧ ∀ p ∈ s.paths, ¬ Framing.delimiter <:+: p := by
    intro s hs
    rcases List.mem_append.1 hs with hs | hs
    · have hrow := h s (ho.rows_eq ▸ List.mem_append_left tail hs)
      exact ⟨hrow.marked, fun p hp => (isPath_of_mem_paths hrow p hp).no_delimiter⟩
    · obtain ⟨t, rest, rfl, -, rfl⟩ := exists_of_mem_stubs hs
      have hrow := h t (ho.rows_eq ▸ List.mem_append_right done List.mem_cons_self)
      refine ⟨marked_emptied hrow.marked, fun p hp => ?_⟩
      rcases mem_paths_emptied hp with hp | rfl
      · exact (isPath_of_mem_paths hrow p hp).no_delimiter
      · decide
  have hframed := toList_frame hnul
  rw [listings_opening (fun r hr => (h r hr).marked) ho, flatMap_frame] at hframed
  exact changes_of_framed hframed (fun s hs => (hread s hs).1) fun s hs => (hread s hs).2

/-- the change of an empty path is read exactly behind the status of a row with one path -/
theorem mem_stubs_iff {begun : List (List Char)} (ho : Opening rows fields done tail begun) {c : FileChange} :
    c ∈ (stubs begun tail).filterMap Row.told? ↔ ∃ r rest, tail = r :: rest ∧ begun = [r.status] ∧ r.stub? = some c := by
  constructor
  · intro hc
    obtain ⟨s, hs, hstub⟩ := List.mem_filterMap.1 hc
    obtain ⟨r, rest, htail, hone, rfl⟩ := exists_of_mem_stubs hs
    rw [told?_emptied] at hstub
    rw [length_fields_of_stub? hstub] at hone
    obtain ⟨status, rfl⟩ := List.length_eq_one_iff.1 (Nat.succ.inj hone)
    obtain ⟨rfl, -⟩ := List.cons_prefix_cons.1 (ho.begun_of_cons r rest htail).1
    exact ⟨r, rest, htail, rfl, hstub⟩
  · rintro ⟨r, rest, rfl, rfl, hstub⟩
    have hone : [r.status].length + 1 = r.fields.length := (length_fields_of_stub? hstub).symm
    refine List.mem_filterMap.2 ⟨r.emptied, ?_, (told?_emptied r).trans hstub⟩
    rw [stubs, if_pos hone]
    exact List.mem_singleton_self _

theorem mem_resolve_opening {begun : List (List Char)} (h : ∀ r ∈ rows, r.WellFormed)
    (ho : Opening rows fields done tail begun) {c : FileChange} :
    c ∈ resolve (frame (String.ofList (fields.flatMap fun f => f ++ ['\x00']))) ↔
      (∃ r ∈ done, r.change? = some c) ∨ ∃ r rest, tail = r :: rest ∧ begun = [r.status] ∧ r.stub? = some c := by
  have htold : ∀ r ∈ done, r.told? = r.change? := fun r hr =>
    told?_of_parted (h r (ho.rows_eq ▸ List.mem_append_left tail hr)).parted
  rw [resolve, ChangeSet.mem_ofList, changes_opening h ho, List.filterMap_append, List.mem_append, mem_stubs_iff ho,
    List.filterMap_congr htold, List.mem_filterMap]

/-- the whole rows of a cut between two fields -/
theorem whole_opening_iff {begun : List (List Char)} (ho : Opening rows fields done tail begun) :
    Whole rows (fields.flatMap fun f => f ++ ['\x00']) r ↔ r ∈ done := by
  have hfields : (fields.flatMap fun f => f ++ ['\x00']) = wire done ++ begun.flatMap fun f => f ++ ['\x00'] := by
    rw [ho.fields_eq, List.flatMap_append, wire]
  refine whole_iff ho.rows_eq hfields fun s rest htail hle => ?_
  obtain ⟨hpre, hlength⟩ := ho.begun_of_cons s rest htail
  obtain ⟨missing, hmissing⟩ := hpre
  cases missing with
  | nil => rw [← hmissing, List.append_nil] at hlength; omega
  | cons f missing =>
    have hwire : (wire [s]).length ≤ (begun.flatMap fun f => f ++ ['\x00']).length := hle.length_le
    rw [wire, List.flatMap_singleton, ← hmissing, List.flatMap_append, List.flatMap_cons] at hwire
    simp only [List.length_append, List.length_singleton] at hwire
    omega

/-- the paths of a change -/
def pathsOf : FileChange → List String
  | .added p => [p]
  | .deleted p => [p]
  | .modified p => [p]
  | .renamed old new _ => [old, new]

theorem pathsOf_change? {c : FileChange} (h : r.change? = some c) : pathsOf c = r.paths.map String.ofList := by
  cases r <;> cases h <;> rfl

theorem pathsOf_stub? {c : FileChange} (h : r.stub? = some c) : pathsOf c = [""] := by
  cases r <;> cases h <;> rfl

theorem empty_not_mem_pathsOf {c : FileChange} (hr : r.WellFormed) (h : r.change? = some c) : "" ∉ pathsOf c := by
  rw [pathsOf_change? h, List.mem_map]
  rintro ⟨p, hp, he⟩
  exact (isPath_of_mem_paths hr p hp).nonempty (String.ofList_eq_empty_iff.1 he)

theorem mem_of_whole (h : Whole rows cut r) : r ∈ rows := by
  obtain ⟨done, rest, rfl, -⟩ := h
  exact List.mem_append_right done List.mem_cons_self

/-- the changes of a cut listing are those of the whole rows, and one of the empty path behind a status -/
theorem mem_resolve_cut (h : ∀ r ∈ rows, r.WellFormed) (hpre : cut <+: wire rows) (hend : ['\x00'] <:+ cut)
    {c : FileChange} : c ∈ resolve (frame (String.ofList cut)) ↔
      (∃ r, Whole rows cut r ∧ r.change? = some c) ∨ ∃ r, Pathless rows cut r ∧ r.stub? = some c := by
  obtain ⟨k, rfl⟩ := exists_take_of_prefix (no_nul_of_wellFormed h) hpre hend
  obtain ⟨done, tail, begun, ho⟩ := exists_opening rows k
  constructor
  · intro hc
    rcases (mem_resolve_opening h ho).1 hc with ⟨r, hr, hc⟩ | ⟨r, rest, rfl, rfl, hc⟩
    · exact Or.inl ⟨r, (whole_opening_iff ho).2 hr, hc⟩
    · refine Or.inr ⟨r, ⟨done, rest, ho.rows_eq, ?_⟩, hc⟩
      rw [ho.fields_eq, List.flatMap_append, wire, List.flatMap_singleton]
  · rintro (⟨r, hr, hc⟩ | ⟨r, ⟨done', rest, hrows, hcut⟩, hc⟩)
    · exact (mem_resolve_opening h ho).2 (Or.inl ⟨r, (whole_opening_iff ho).1 hr, hc⟩)
    · -- the cut is behind a status, which is another way to see where it is
      have ho' : Opening rows (done'.flatMap Row.fields ++ [r.status]) done' (r :: rest) [r.status] := by
        refine ⟨hrows, rfl, ?_, by simp⟩
        rintro s rest' hs
        obtain ⟨rfl, -⟩ := List.cons.inj hs
        exact ⟨List.prefix_append [r.status] r.paths, by rw [length_fields_of_stub? hc]; exact Nat.one_lt_two⟩
      have hfields : ((done'.flatMap Row.fields ++ [r.status]).flatMap fun f => f ++ ['\x00']) =
          wire done' ++ (r.status ++ ['\x00']) := by
        rw [List.flatMap_append, List.flatMap_singleton, wire]
      rw [hcut, ← hfields]
      exact (mem_resolve_opening h ho').2 (Or.inr ⟨r, rest, rfl, rfl, hc⟩)

/-- **A listing that breaks off.** Right behind one of its NULs a listing is cut. Its changes are those of the rows that
lie completely before the cut; and if the cut is right behind the status of an added, deleted or modified file, the change
of an empty path is among them. So nothing is invented, and no path is empty, exactly if the cut is at no such place. -/
theorem resolve_frame_cut (rows : List Row) (h : ∀ r ∈ rows, r.WellFormed) (cut : List Char) (hpre : cut <+: wire rows)
    (hend : ['\x00'] <:+ cut) :
    (∀ c, c ∈ resolve (frame (String.ofList cut)) ↔
        (∃ r, Whole rows cut r ∧ r.change? = some c) ∨ ∃ r, Pathless rows cut r ∧ r.stub? = some c) ∧
      ((∀ c, c ∈ resolve (frame (String.ofList cut)) ↔ ∃ r, Whole rows cut r ∧ r.change? = some c) ↔
        ∀ r, Pathless rows cut r → r.stub? = none) ∧
      ((∀ c ∈ resolve (frame (String.ofList cut)), "" ∉ pathsOf c) ↔ ∀ r, Pathless rows cut r → r.stub? = none) := by
  have hmem : ∀ c, c ∈ resolve (frame (String.ofList cut)) ↔
      (∃ r, Whole rows cut r ∧ r.change? = some c) ∨ ∃ r, Pathless rows cut r ∧ r.stub? = some c :=
    fun c => mem_resolve_cut h hpre hend
  have hnamed : ∀ c, (∃ r, Whole rows cut r ∧ r.change? = some c) → "" ∉ pathsOf c := by
    rintro c ⟨r, hr, hc⟩
    exact empty_not_mem_pathsOf (h r (mem_of_whole hr)) hc
  have hstub : (∀ c ∈ resolve (frame (String.ofList cut)), "" ∉ pathsOf c) → ∀ r, Pathless rows cut r → r.stub? = none := by
    intro hpaths r hr
    refine Option.eq_none_iff_forall_ne_some.2 fun c hc => ?_
    exact hpaths c ((hmem c).2 (Or.inr ⟨r, hr, hc⟩)) (pathsOf_stub? hc ▸ List.mem_singleton_self "")
  have hset : (∀ r, Pathless rows cut r → r.stub? = none) →
      ∀ c, c ∈ resolve (frame (String.ofList cut)) ↔ ∃ r, Whole rows cut r ∧ r.change? = some c := by
    intro hnone c
    rw [hmem, or_iff_left]
    rintro ⟨r, hr, hc⟩
    exact absurd (hnone r hr ▸ hc) (by simp)
  exact ⟨hmem, ⟨fun hsame => hstub fun c hc => hnamed c ((hsame c).1 hc), hset⟩,
    ⟨hstub, fun hnone c hc => hnamed c ((hset hnone c).1 hc)⟩⟩

/-- a rename, a copy, and a file that is deleted -/
def brokenRows : List Row :=
  [.renamed "087".toList " a".toList "b\nc".toList, .copied "100".toList "u\tv".toList ['w'], .deleted ['x']]

/-- the text of these rows up to the status of the last -/
def brokenText : List Char := "R087\x00 a\x00b\nc\x00C100\x00u\tv\x00w\x00D\x00".toList

theorem resolve_brokenText :
    (∀ r ∈ brokenRows, r.WellFormed) ∧ brokenText <+: wire brokenRows ∧ ['\x00'] <:+ brokenText ∧
      .renamed " a" "b\nc" true ∈ resolve (frame (String.ofList brokenText)) ∧
      .deleted "" ∈ resolve (frame (String.ofList brokenText)) ∧
      ¬ ∀ c ∈ resolve (frame (String.ofList brokenText)), "" ∉ pathsOf c := by
  have hrows : ∀ r ∈ brokenRows, r.WellFormed := by decide
  have hpre : brokenText <+: wire brokenRows := by decide
  have hend : ['\x00'] <:+ brokenText := by decide
  have hwhole : Whole brokenRows brokenText (.renamed "087".toList " a".toList "b\nc".toList) := ⟨[], _, rfl, by decide⟩
  have hstatus : Pathless brokenRows brokenText (.deleted ['x']) := ⟨brokenRows.take 2, [], rfl, by decide⟩
  obtain ⟨hmem, -, hpaths⟩ := resolve_frame_cut brokenRows hrows brokenText hpre hend
  refine ⟨hrows, hpre, hend, (hmem _).2 (Or.inl ⟨_, hwhole, rfl⟩), (hmem _).2 (Or.inr ⟨_, hstatus, rfl⟩), fun hnone => ?_⟩
  exact absurd (hpaths.1 hnone _ hstatus) (by decide)

/-- **A cut behind a status adds an empty path.** A listing that breaks off behind the status of its second file is read as
if a file without a name had been added, though no such row is in the listing. -/
theorem cut_adds_empty_path :
    (∀ r ∈ [Row.modified "a.py".toList, .added ['b']], r.WellFormed) ∧
      "M\x00a.py\x00A\x00".toList <+: wire [.modified "a.py".toList, .added ['b']] ∧
      ['\x00'] <:+ "M\x00a.py\x00A\x00".toList ∧
      .added "" ∈ resolve (frame "M\x00a.py\x00A\x00") ∧
      ¬ ∃ r, Whole [.modified "a.py".toList, .added ['b']] "M\x00a.py\x00A\x00".toList r ∧
        r.change? = some (.added "") := by
  have hread : FileChange.added "" ∈ (resolve (frame "M\x00a.py\x00A\x00")).members := by decide +kernel
  have hnone : ∀ r ∈ [Row.modified "a.py".toList, .added ['b']], r.change? ≠ some (.added "") := by decide
  refine ⟨by decide, by decide, by decide, hread, ?_⟩
  rintro ⟨r, hr, hc⟩
  exact hnone r (mem_of_whole hr) hc

end ChangeLint.Status
