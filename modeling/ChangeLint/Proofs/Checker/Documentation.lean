/-
What the documentation checker reports.

The checker scans the lines of each diff itself, and the filter of findings looks at an index of all diffs by path. They
agree: nothing that the checker reports is dropped by the filter.

Results, for every list of diffs, several of which may have one path, and whatever the files hold (`reports_check`):
- the findings are those on the diffs whose path has one of the endings, one diff after the other;
- on one diff they are the remarks on lines that the diff tells of, in order of lines and then of texts (`ReportsOn`);
- filtered with the same diffs they are the same, and nothing is noted.
-/
import ChangeLint.Checker.Documentation
import ChangeLint.Proofs.Except
import ChangeLint.Proofs.Finding.Selection
import ChangeLint.Proofs.Script.Undocumented
import ChangeLint.Proofs.Text.Utf8

namespace ChangeLint.Checker.Documentation

section

variable [Interpreter]

/-- what the file with a name leaves undocumented, nothing where it cannot be read or parsed -/
def remarksOn (c : Documentation) (name : String) : List Script.Remark :=
  ((c.readScript name).result.toOption.join.bind fun text => (Script.undocumented text).toOption).getD []

/-- the remarks on lines that a diff tells of -/
def remarksIn (c : Documentation) (d : FileDiff) : List Script.Remark :=
  (c.remarksOn d.newPath).filter fun r => d.lines.any fun l => l.touches r.1

end

/-- a finding is a remark on a line, with the kind of the first line of a diff that tells of it -/
def Tells (d : FileDiff) (r : Script.Remark) (f : Finding) : Prop :=
  ∃ before l after, d.lines = before ++ l :: after ∧ (∀ l' ∈ before, l'.touches r.1 = false) ∧ l.touches r.1 = true ∧
    f = .line d.newPath (.int r.1) l.kind r.2 source .error

section

variable [Interpreter]

/-- the findings on a diff: one for each remark on its lines, in order -/
structure ReportsOn (c : Documentation) (d : FileDiff) (fs : List Finding) : Prop where
  tells : List.Forall₂ (Tells d) (c.remarksIn d) fs
  ordered : (c.remarksIn d).Pairwise fun r s => r.1 < s.1 ∨ r.1 = s.1 ∧ r.2 ≤ s.2

/-- what the checker reports on diffs -/
structure Reports (c : Documentation) (diffs : List FileDiff) (found : List Finding) : Prop where
  /-- the filter keeps all findings, and says nothing -/
  kept : Relevance.filter diffs found = pure found
  /-- the findings on each diff with a path that is admitted, one diff after the other -/
  byDiff : ∃ parts, found = parts.flatten ∧
    List.Forall₂ (ReportsOn c) (diffs.filter fun d => c.extensions.contains (Path.suffix d.newPath)) parts
  /-- every finding is on a line of such a path -/
  paths : ∀ f ∈ found, ∃ d ∈ diffs, Path.suffix d.newPath ∈ c.extensions ∧ ∃ r ∈ c.remarksIn d, Tells d r f

end

variable {c : Documentation} {diffs : List FileDiff} {d : FileDiff} {f : Finding} {fs found : List Finding}
  {r : Script.Remark} {name : String} {text : List Char}

/-! ## One diff -/

theorem tells_of_finding? (h : finding? d r = some f) : Tells d r f := by
  obtain ⟨l, hfirst, rfl⟩ := Option.map_eq_some_iff.1 h
  obtain ⟨htouches, before, after, hlines, hbefore⟩ := List.find?_eq_some_iff_append.1 hfirst
  exact ⟨before, l, after, hlines, fun l' hl' => by simpa using hbefore l' hl', htouches, rfl⟩

theorem isSome_finding? (d : FileDiff) (r : Script.Remark) :
    (finding? d r).isSome = d.lines.any fun l => l.touches r.1 := by
  rw [finding?, Option.isSome_map, FileDiff.touching?, List.isSome_find?]

/-- findings tell the remarks that they are made of -/
theorem forall₂_tells (d : FileDiff) (remarks : List Script.Remark) :
    List.Forall₂ (Tells d) (remarks.filter fun r => d.lines.any fun l => l.touches r.1) (remarks.filterMap (finding? d)) := by
  induction remarks with
  | nil => exact .nil
  | cons r remarks ih =>
    have hsome := isSome_finding? d r
    rw [List.filter_cons, List.filterMap_cons, ← hsome]
    cases hf : finding? d r with
    | none => exact ih
    | some f => exact .cons (tells_of_finding? hf) ih

section

variable [Interpreter]

theorem result_checkScript (h : (checkScript d text).result = .ok fs) :
    fs = ((Script.undocumented text).toOption.getD []).filterMap (finding? d) := by
  unfold checkScript at h
  cases hremarks : Script.undocumented text with
  | ok remarks =>
    rw [hremarks] at h
    exact (Except.ok.inj h).symm
  | error e =>
    rw [hremarks] at h
    cases e with
    | nul => cases h
    | malformed => exact (Except.ok.inj h).symm
    | abandoned kind text => cases h

theorem result_checkFile (h : (c.checkFile d).result = .ok fs) : fs = (c.remarksOn d.newPath).filterMap (finding? d) := by
  obtain ⟨script, hscript, h⟩ := Act.result_bind_eq_ok h
  rw [remarksOn, hscript]
  cases script with
  | none => exact (Except.ok.inj h).symm
  | some text => exact result_checkScript h

theorem pairwise_remarksOn (c : Documentation) (name : String) :
    (c.remarksOn name).Pairwise fun r s => r.1 < s.1 ∨ r.1 = s.1 ∧ r.2 ≤ s.2 := by
  rw [remarksOn]
  cases hremarks : (c.readScript name).result.toOption.join.bind fun text => (Script.undocumented text).toOption with
  | none => exact .nil
  | some remarks =>
    obtain ⟨text, -, hremarks⟩ := Option.bind_eq_some_iff.1 hremarks
    exact Script.pairwise_undocumented (toOption_eq_some hremarks)

theorem reportsOn_checkFile (h : (c.checkFile d).result = .ok fs) : ReportsOn c d fs where
  tells := by
    rw [result_checkFile h]
    exact forall₂_tells d (c.remarksOn d.newPath)
  ordered := (pairwise_remarksOn c d.newPath).filter _

theorem exists_tells_of_checkFile (h : (c.checkFile d).result = .ok fs) (hf : f ∈ fs) : ∃ r ∈ c.remarksIn d, Tells d r f := by
  rw [result_checkFile h] at hf
  obtain ⟨r, hr, hfinding⟩ := List.mem_filterMap.1 hf
  exact ⟨r, List.mem_filter.2 ⟨hr, by rw [← isSome_finding?, hfinding, Option.isSome_some]⟩, tells_of_finding? hfinding⟩

end

/-! ## All diffs -/

/-- a finding on a line of a diff stays -/
theorem Tells.stays (hd : d ∈ diffs) (h : Tells d r f) : Relevance.Stays diffs f := by
  obtain ⟨before, l, after, hlines, -, htouches, rfl⟩ := h
  have hl : l ∈ d.lines := hlines ▸ List.mem_append_right before List.mem_cons_self
  exact .line hd hl (.int r.1) htouches

theorem Tells.hasKey (h : Tells d r f) : Relevance.HasKey f := by
  obtain ⟨before, l, after, -, -, -, rfl⟩ := h
  exact trivial

/-- what stays in the diffs is kept without a note -/
theorem filter_eq_pure (h : ∀ f ∈ found, Relevance.HasKey f ∧ Relevance.Stays diffs f) :
    Relevance.filter diffs found = pure found := by
  have hkept : Relevance.kept diffs found = .ok found :=
    Relevance.kept_eq_ok_iff.2 ⟨fun f hf => (h f hf).1, (List.filter_eq_self.2 fun f hf => by simpa using (h f hf).2).symm⟩
  rw [Relevance.filter, Act.ofExcept_bind_of_ok hkept, Nat.sub_self, if_pos rfl]

/-- **The documentation checker reports** what the filter keeps, diff by diff -/
theorem reports_check [Interpreter] (h : (c.check diffs).result = .ok found) : Reports c diffs found := by
  obtain ⟨parts, hparts, h⟩ := Act.result_bind_eq_ok h
  obtain rfl : parts.flatten = found := Except.ok.inj h
  have heach := (Act.result_each_eq_ok hparts).imp fun d fs h => reportsOn_checkFile h
  have hpaths : ∀ f ∈ parts.flatten, ∃ d ∈ diffs, Path.suffix d.newPath ∈ c.extensions ∧
      ∃ r ∈ c.remarksIn d, Tells d r f := by
    intro f hf
    obtain ⟨fs, hfs, hf⟩ := List.mem_flatten.1 hf
    obtain ⟨d, hd, hfile⟩ := Act.exists_of_mem_each hparts hfs
    obtain ⟨hd, hsuffix⟩ := List.mem_filter.1 hd
    exact ⟨d, hd, by simpa using hsuffix, exists_tells_of_checkFile hfile hf⟩
  refine ⟨filter_eq_pure fun f hf => ?_, ⟨parts, rfl, heach⟩, hpaths⟩
  obtain ⟨d, hd, -, r, -, htells⟩ := hpaths f hf
  exact ⟨htells.hasKey, htells.stays hd⟩

/-- every file holds one script -/
def everywhere : Documentation := ⟨".", fun _ => .bytes (Text.Utf8.encode Script.mixed), defaultExtensions⟩

/-- two diffs of one file, which tell of different lines, and a diff of a file that is no script -/
def apart : List FileDiff :=
  [⟨"a.py", "a.py", [⟨.context, " x", some 9, some 5⟩]⟩,
    ⟨"a.py", "a.py", [⟨.removed, "-y", some 3, none⟩, ⟨.added, "+z", none, some 2⟩]⟩,
    ⟨"b.txt", "b.txt", [⟨.added, "+z", none, some 2⟩]⟩]

/-- what is found in the first two of them -/
def foundApart : List Finding :=
  [.line "a.py" (.int 5) .context "Public function \"g\" has no docstring" source .error,
    .line "a.py" (.int 2) .added "Public class \"A\" has no docstring" source .error,
    .line "a.py" (.int 3) .removed "Parameter \"a\" of public function \"f\" is not documented" source .error]

theorem checkFile_everywhere (hpath : d.newPath = "a.py") : @checkFile .usual everywhere d =
    pure ([(2, "Public class \"A\" has no docstring"), (3, "Parameter \"a\" of public function \"f\" is not documented"),
      (5, "Public function \"g\" has no docstring")].filterMap (finding? d)) := by
  have hnul : ¬ (Path.join "." "a.py").toList.contains '\x00' := by decide
  have hlines : Text.plainLines Script.mixed = Script.mixed := Text.plainLines_of_not_mem (by decide)
  have hread : everywhere.readScript "a.py" = pure (some Script.mixed) := by
    rw [readScript, everywhere, if_neg hnul]
    dsimp only
    rw [Text.Utf8.decode_encode]
    dsimp only
    rw [hlines]
  have hscript : @checkScript .usual d Script.mixed =
      pure ([(2, "Public class \"A\" has no docstring"), (3, "Parameter \"a\" of public function \"f\" is not documented"),
        (5, "Public function \"g\" has no docstring")].filterMap (finding? d)) := by
    unfold checkScript
    rw [Script.undocumented_mixed]
  unfold checkFile
  rw [hpath, hread, pure_bind]
  exact hscript

theorem reports_apart : letI : Interpreter := .usual
    (everywhere.check apart).result = .ok foundApart ∧ Reports everywhere apart foundApart := by
  let : Interpreter := .usual
  have hfilter : (apart.filter fun d => everywhere.extensions.contains (Path.suffix d.newPath)) = apart.take 2 := by decide
  have heach : (Act.each everywhere.checkFile (apart.take 2)).result = .ok [foundApart.take 1, foundApart.drop 1] := by
    simp only [apart, List.take_succ_cons, List.take_zero, Act.each, checkFile_everywhere]
    rfl
  have hcheck : (everywhere.check apart).result = .ok foundApart := by
    rw [check, hfilter]
    exact Act.result_bind_of_ok heach _
  exact ⟨hcheck, reports_check hcheck⟩

end ChangeLint.Checker.Documentation
