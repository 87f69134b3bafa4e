/-
Files that the documentation checker cannot make use of.

What stands at the path of a diff is one of three things (`exists_sort`): a script; something that is passed over with a
warning, because it cannot be read, is no UTF-8 or is malformed (`PassedOver`); or something that ends the check (`Ends`): a
null character in the path or in the text, or a text on which the interpreter gives up.

Results, for all diffs and whatever the files hold (`spares_check`):
- findings are returned if and only if nothing ends the check, and else the first thing that does is the failure;
- they are those of each file, and the log has one warning for each diff of a file that is passed over;
- without the diffs of such a file the check ends as it does with them.
`nul_ends_check`: a null character in one file costs the findings of the others.
-/
import ChangeLint.Proofs.Checker.Documentation

namespace ChangeLint.Checker.Documentation

/-- where a file is looked for -/
def place (c : Documentation) (name : String) : String := Path.join c.directory name

/-- the text of a file, or the reason why it cannot be read -/
def textOf (c : Documentation) (name : String) : Except String (List Char) :=
  match c.files (c.place name) with
  | .problem p => .error (p.message (c.place name))
  | .bytes b => (Text.Utf8.decode b).mapError Text.Utf8.Error.message |>.map Text.plainLines

/-- the diffs of files with one of the endings -/
def wanted (c : Documentation) (diffs : List FileDiff) : List FileDiff :=
  diffs.filter fun d => c.extensions.contains (Path.suffix d.newPath)

section

variable [Interpreter]

/-- a file is passed over, with a warning -/
inductive PassedOver (c : Documentation) (name : String) : String → Prop
  | unread {reason : String} (hpath : '\x00' ∉ (c.place name).toList) (h : c.textOf name = .error reason) :
    PassedOver c name ("Cannot read " ++ c.place name ++ ": " ++ reason)
  | unparsed {text : List Char} (hpath : '\x00' ∉ (c.place name).toList) (h : c.textOf name = .ok text)
    (hparse : Interpreter.parse text = .error .malformed) : PassedOver c name ("Cannot parse " ++ name)

/-- a file ends the check: a null character is in its path, its text is refused otherwise than as malformed, as one with a null
character is, or the stack is too small for it -/
inductive Ends (c : Documentation) (name : String) : Failure → Prop
  | path (h : '\x00' ∈ (c.place name).toList) : Ends c name .nulInPath
  | refused {text : List Char} {e : Script.Refusal} (hpath : '\x00' ∉ (c.place name).toList) (h : c.textOf name = .ok text)
    (hparse : Interpreter.parse text = .error e) (he : e ≠ .malformed) : Ends c name (.script e)
  | tooDeep {text : List Char} {statements : List Script.Statement} {m : String} (hpath : '\x00' ∉ (c.place name).toList)
    (h : c.textOf name = .ok text) (hparse : Interpreter.parse text = .ok statements)
    (hstack : Interpreter.overrun? .script text = some m) : Ends c name (.script (.abandoned "RecursionError" m))

/-- a file is a script -/
structure Holds (c : Documentation) (name : String) (text : List Char) (statements : List Script.Statement) : Prop where
  path : '\x00' ∉ (c.place name).toList
  reads : c.textOf name = .ok text
  script : Script.IsScript text statements

/-- what is noted on one diff -/
def Notes (c : Documentation) (d : FileDiff) (log : List Entry) : Prop :=
  (∃ w, PassedOver c d.newPath w ∧ log = [⟨.warning, w⟩]) ∨ (∀ w, ¬ PassedOver c d.newPath w) ∧ log = []

/-- the findings on one diff -/
def findingsOn (c : Documentation) (d : FileDiff) : List Finding := (c.remarksOn d.newPath).filterMap (finding? d)

/-- a check is not broken by files that cannot be made use of -/
structure Spares (c : Documentation) (diffs : List FileDiff) : Prop where
  /-- it returns findings unless something ends it -/
  returns : (∃ found, (c.check diffs).result = .ok found) ↔ ∀ d ∈ c.wanted diffs, ∀ f, ¬ Ends c d.newPath f
  /-- and if something does, the first of it is its failure -/
  fails : ∀ f, (c.check diffs).result = .error f ↔ ∃ before d after, c.wanted diffs = before ++ d :: after ∧
    (∀ d' ∈ before, ∀ f', ¬ Ends c d'.newPath f') ∧ Ends c d.newPath f
  /-- each diff contributes the findings on its own file, -/
  finds : ∀ found, (c.check diffs).result = .ok found → found = (c.wanted diffs).flatMap c.findingsOn
  /-- and a warning if this is passed over -/
  notes : ∀ found, (c.check diffs).result = .ok found →
    ∃ logs, List.Forall₂ (Notes c) (c.wanted diffs) logs ∧ (c.check diffs).log = logs.flatten
  /-- what is passed over contributes no finding, -/
  silent : ∀ name w, PassedOver c name w → c.remarksOn name = []
  /-- and the check ends as it does without it -/
  without : ∀ name w, PassedOver c name w →
    (c.check diffs).result = (c.check (diffs.filter fun d => d.newPath ≠ name)).result

end

variable {c : Documentation} {diffs : List FileDiff} {d : FileDiff} {f f' : Failure} {found : List Finding}
  {name w reason : String} {text : List Char} {statements : List Script.Statement}

/-! ## One file -/

theorem contains_place : (Path.join c.directory name).toList.contains '\x00' = true ↔ '\x00' ∈ (c.place name).toList :=
  List.contains_iff_mem

/-- what a path leads to, unless it has a null character -/
theorem readScript_eq (h : '\x00' ∉ (c.place name).toList) : c.readScript name =
    match c.textOf name with
    | .error reason => unreadable (c.place name) reason
    | .ok text => pure (some text) := by
  rw [readScript, if_neg fun hcontains => h (contains_place.1 hcontains), textOf, place]
  cases c.files (Path.join c.directory name) with
  | problem p => rfl
  | bytes b =>
    dsimp only
    cases Text.Utf8.decode b with
    | error e => rfl
    | ok cs => rfl

/-- a file with a text in it is read -/
theorem textOf_of_encode (hfile : c.files (c.place name) = .bytes (Text.Utf8.encode text)) (hlines : '\r' ∉ text) :
    c.textOf name = .ok text := by
  rw [textOf, hfile]
  dsimp only
  rw [Text.Utf8.decode_encode, Except.mapError, Except.map, Text.plainLines_of_not_mem hlines]

section

variable [Interpreter]

/-- **A file is a script, or it is passed over, or it ends the check** -/
theorem exists_sort (c : Documentation) (name : String) :
    (∃ text statements, Holds c name text statements) ∨ (∃ w, PassedOver c name w) ∨ ∃ f, Ends c name f := by
  by_cases hpath : '\x00' ∈ (c.place name).toList
  · exact .inr (.inr ⟨_, .path hpath⟩)
  · cases htext : c.textOf name with
    | error reason => exact .inr (.inl ⟨_, .unread hpath htext⟩)
    | ok text =>
      cases hparse : Interpreter.parse text with
      | error e =>
        by_cases he : e = .malformed
        · exact .inr (.inl ⟨_, .unparsed hpath htext (he ▸ hparse)⟩)
        · exact .inr (.inr ⟨_, .refused hpath htext hparse he⟩)
      | ok statements =>
        cases hstack : Interpreter.overrun? .script text with
        | some m => exact .inr (.inr ⟨_, .tooDeep hpath htext hparse hstack⟩)
        | none => exact .inl ⟨text, statements, hpath, htext, hparse, hstack⟩

theorem Holds.not_passedOver (h : Holds c name text statements) : ¬ PassedOver c name w := by
  intro hpassed
  cases hpassed with
  | unread _ hreason =>
    rw [h.reads] at hreason
    cases hreason
  | unparsed _ htext hparse =>
    obtain rfl := Except.ok.inj (h.reads.symm.trans htext)
    rw [h.script.parses] at hparse
    cases hparse

theorem Holds.not_ends (h : Holds c name text statements) : ¬ Ends c name f := by
  intro hends
  cases hends with
  | path hno => exact h.path hno
  | refused _ htext hparse _ =>
    obtain rfl := Except.ok.inj (h.reads.symm.trans htext)
    rw [h.script.parses] at hparse
    cases hparse
  | tooDeep _ htext _ hstack =>
    obtain rfl := Except.ok.inj (h.reads.symm.trans htext)
    rw [h.script.room] at hstack
    cases hstack

/-- what a file with a text in it comes to -/
theorem checkFile_of_text (hpath : '\x00' ∉ (c.place d.newPath).toList) (htext : c.textOf d.newPath = .ok text) :
    c.checkFile d = checkScript d text := by
  rw [checkFile, readScript_eq hpath, htext]
  dsimp only
  rw [pure_bind]

/-- **What is passed over is noted**, and nothing is found in it -/
theorem checkFile_of_passedOver (h : PassedOver c d.newPath w) : c.checkFile d = ⟨[.note ⟨.warning, w⟩], .ok []⟩ := by
  cases h with
  | unread hpath hreason =>
    rw [checkFile, readScript_eq hpath, hreason]
    rfl
  | unparsed hpath htext hparse =>
    rw [checkFile_of_text hpath htext, checkScript, Script.undocumented, hparse]
    rfl

/-- what ends the check is its failure -/
theorem checkFile_of_ends (h : Ends c d.newPath f) : c.checkFile d = Act.fail f := by
  cases h with
  | path hno =>
    rw [checkFile, readScript, if_pos (contains_place.2 hno)]
    rfl
  | @refused text e hpath htext hparse he =>
    have hrefused : Script.undocumented text = .error e := by rw [Script.undocumented, hparse]
    rw [checkFile_of_text hpath htext, checkScript, hrefused]
    cases e with
    | malformed => exact absurd rfl he
    | nul => rfl
    | abandoned kind said => rfl
  | tooDeep hpath htext hparse hstack =>
    rw [checkFile_of_text hpath htext, checkScript, Script.undocumented, hparse, hstack]

/-- a script is checked without a note -/
theorem checkFile_of_holds (h : Holds c d.newPath text statements) : c.checkFile d = pure (c.findingsOn d) := by
  have hscript : c.readScript d.newPath = pure (some text) := by rw [readScript_eq h.path, h.reads]
  have hremarks := Script.undocumented_of_isScript h.script
  rw [findingsOn, remarksOn, checkFile, hscript, pure_bind]
  dsimp only
  rw [checkScript, hremarks, Act.result_pure]
  simp [Except.toOption, hremarks]

/-- nothing is found in what is passed over -/
theorem remarksOn_of_passedOver (h : PassedOver c name w) : c.remarksOn name = [] := by
  cases h with
  | unread hpath hreason =>
    rw [remarksOn, readScript_eq hpath, hreason]
    rfl
  | @unparsed text hpath htext hparse =>
    have hmalformed : (Script.undocumented text).toOption = none := by
      rw [Script.undocumented, hparse]
      rfl
    rw [remarksOn, readScript_eq hpath, htext]
    exact congrArg (Option.getD · []) hmalformed

/-- **A file is checked to its end** unless something ends the check -/
theorem result_checkFile_of_not_ends (h : ∀ f, ¬ Ends c d.newPath f) : (c.checkFile d).result = .ok (c.findingsOn d) := by
  rcases exists_sort c d.newPath with ⟨text, statements, hscript⟩ | ⟨w, hpassed⟩ | ⟨f, hends⟩
  · rw [checkFile_of_holds hscript, Act.result_pure]
  · rw [checkFile_of_passedOver hpassed, findingsOn, remarksOn_of_passedOver hpassed]
    rfl
  · exact absurd hends (h f)

theorem exists_checkFile_iff : (∃ fs, (c.checkFile d).result = .ok fs) ↔ ∀ f, ¬ Ends c d.newPath f := by
  constructor
  · rintro ⟨fs, h⟩ f hends
    rw [checkFile_of_ends hends] at h
    cases h
  · intro h
    exact ⟨c.findingsOn d, result_checkFile_of_not_ends h⟩

/-- what is noted on a file that is checked to its end -/
theorem notes_checkFile (h : ∀ f, ¬ Ends c d.newPath f) : Notes c d (c.checkFile d).log := by
  rcases exists_sort c d.newPath with ⟨text, statements, hscript⟩ | ⟨w, hpassed⟩ | ⟨f, hends⟩
  · rw [checkFile_of_holds hscript]
    exact .inr ⟨fun w => hscript.not_passedOver, rfl⟩
  · rw [checkFile_of_passedOver hpassed]
    exact .inl ⟨w, hpassed, rfl⟩
  · exact absurd hends (h f)

/-! ## All diffs -/

/-- a check ends as the checks of its files do -/
theorem result_check (c : Documentation) (diffs : List FileDiff) :
    (c.check diffs).result = ((c.wanted diffs).mapM fun d => (c.checkFile d).result).map List.flatten := by
  have heach := Act.result_each c.checkFile (c.wanted diffs)
  rw [← heach]
  exact Act.result_bind_eq_map fun _ => rfl

theorem exists_check_iff : (∃ found, (c.check diffs).result = .ok found) ↔ ∀ d ∈ c.wanted diffs, ∀ f, ¬ Ends c d.newPath f := by
  rw [result_check, exists_map_eq_ok, exists_mapM_eq_ok]
  exact forall₂_congr fun d _ => exists_checkFile_iff

/-- **The first file that ends the check** is its failure -/
theorem check_eq_error_iff : (c.check diffs).result = .error f ↔ ∃ before d after, c.wanted diffs = before ++ d :: after ∧
    (∀ d' ∈ before, ∀ f', ¬ Ends c d'.newPath f') ∧ Ends c d.newPath f := by
  -- both directions need that the first one is the failure: it is there, and there is no other failure
  have hfirst : ∀ {before d after g}, c.wanted diffs = before ++ d :: after →
      (∀ d' ∈ before, ∀ f', ¬ Ends c d'.newPath f') → Ends c d.newPath g → (c.check diffs).result = .error g := by
    intro before d after g hwanted hbefore hends
    have hd : (c.checkFile d).result = .error g := by
      rw [checkFile_of_ends hends]
      rfl
    rw [result_check, hwanted, mapM_eq_error (fun d' hd' => exists_checkFile_iff.2 (hbefore d' hd')) hd]
    rfl
  constructor
  · intro h
    rcases forall_or_exists_first (fun d => ∀ f', ¬ Ends c d.newPath f') (c.wanted diffs) with
      hall | ⟨before, d, after, hwanted, hbefore, hd⟩
    · obtain ⟨found, hfound⟩ := exists_check_iff.2 hall
      rw [h] at hfound
      cases hfound
    · obtain ⟨g, hends⟩ := not_forall_not.1 hd
      have hg := hfirst hwanted hbefore hends
      obtain rfl := Except.error.inj (hg.symm.trans h)
      exact ⟨before, d, after, hwanted, hbefore, hends⟩
  · rintro ⟨before, d, after, hwanted, hbefore, hends⟩
    exact hfirst hwanted hbefore hends

/-- **The findings** are those on each file -/
theorem findings_of_check (h : (c.check diffs).result = .ok found) : found = (c.wanted diffs).flatMap c.findingsOn := by
  rw [result_check] at h
  obtain ⟨parts, hparts, rfl⟩ := map_eq_ok h
  have heach : List.Forall₂ (fun d fs => c.findingsOn d = fs) (c.wanted diffs) parts :=
    (mapM_eq_ok.1 hparts).imp fun d fs hfile => (result_checkFile hfile).symm
  have hmap : (c.wanted diffs).map c.findingsOn = parts := by
    rw [← List.forall₂_eq_eq_eq, List.forall₂_map_left_iff]
    exact heach
  rw [List.flatMap_def, hmap]

/-- what is observed of a check that returns findings is observed of its files -/
theorem log_check (h : (c.check diffs).result = .ok found) :
    (c.check diffs).log = ((c.wanted diffs).map fun d => (c.checkFile d).log).flatten := by
  have hall : ∀ d ∈ c.wanted diffs, ∃ fs, (c.checkFile d).result = .ok fs :=
    fun d hd => exists_checkFile_iff.2 (exists_check_iff.1 ⟨found, h⟩ d hd)
  obtain ⟨parts, hparts, -⟩ := Act.result_bind_eq_ok h
  have htrace : (c.check diffs).trace = (Act.each c.checkFile (c.wanted diffs)).trace ++ [] :=
    congrArg Act.trace (Act.bind_eq_of_ok hparts _)
  rw [Act.log, htrace, List.append_nil, Act.trace_each_of_ok hall, List.filterMap_flatMap]
  rfl

theorem notes_of_check (h : (c.check diffs).result = .ok found) :
    ∃ logs, List.Forall₂ (Notes c) (c.wanted diffs) logs ∧ (c.check diffs).log = logs.flatten := by
  have hall : ∀ d ∈ c.wanted diffs, Notes c d (c.checkFile d).log :=
    fun d hd => notes_checkFile (exists_check_iff.1 ⟨found, h⟩ d hd)
  refine ⟨(c.wanted diffs).map fun d => (c.checkFile d).log, ?_, log_check h⟩
  rw [List.forall₂_map_right_iff]
  exact List.forall₂_same.2 hall

/-- **What is passed over makes no difference** to the findings -/
theorem result_check_without (h : PassedOver c name w) :
    (c.check diffs).result = (c.check (diffs.filter fun d => d.newPath ≠ name)).result := by
  have hwanted : c.wanted (diffs.filter fun d => d.newPath ≠ name) = (c.wanted diffs).filter fun d => d.newPath ≠ name :=
    List.filter_comm _ _ _
  have hempty : ∀ d ∈ c.wanted diffs, decide (d.newPath ≠ name) = false → (c.checkFile d).result = .ok [] := by
    intro d _ hname
    obtain rfl : d.newPath = name := by simpa using hname
    rw [checkFile_of_passedOver h]
  rw [result_check, result_check, hwanted, flatten_mapM_filter hempty]

/-- **The check is spared** all files that it cannot make use of, but for those that end it -/
theorem spares_check (c : Documentation) (diffs : List FileDiff) : Spares c diffs where
  returns := exists_check_iff
  fails _ := check_eq_error_iff
  finds _ := findings_of_check
  notes _ := notes_of_check
  silent _ _ := remarksOn_of_passedOver
  without _ _ := result_check_without

end

/-- a script with a class on its second line, and a file that is a null character -/
def nulBeside : Documentation where
  directory := "."
  files path := .bytes (Text.Utf8.encode (if path = "n.py" then ['\x00'] else Script.mixed))
  extensions := defaultExtensions

/-- what is changed in the script -/
def classAdded : FileDiff := ⟨"a.py", "a.py", [⟨.added, "+z", none, some 2⟩]⟩

/-- **A null character in one file costs the findings of the others** -/
theorem nul_ends_check : letI : Interpreter := .usual
    (nulBeside.check [classAdded]).result =
      .ok [.line "a.py" (.int 2) .added "Public class \"A\" has no docstring" source .error] ∧
    (nulBeside.check [classAdded, ⟨"n.py", "n.py", []⟩]).result = .error (.script .nul) := by
  let : Interpreter := .usual
  have hmixed : nulBeside.textOf "a.py" = .ok Script.mixed := textOf_of_encode rfl (by decide)
  have hnul : Ends nulBeside "n.py" (.script .nul) :=
    .refused (by decide) (textOf_of_encode rfl (by decide)) (Interpreter.parse_nul (by decide)) nofun
  obtain ⟨statements, hscript⟩ := Script.exists_isScript Script.undocumented_mixed
  have hholds : Holds nulBeside classAdded.newPath Script.mixed statements := ⟨by decide, hmixed, hscript⟩
  constructor
  · have hwanted : nulBeside.wanted [classAdded] = [classAdded] := by decide
    rw [result_check, hwanted, flatten_mapM_cons, checkFile_of_text hholds.path hholds.reads]
    unfold checkScript
    rw [Script.undocumented_mixed]
    rfl
  · have hbefore : ∀ d ∈ [classAdded], ∀ f, ¬ Ends nulBeside d.newPath f := by
      rw [List.forall_mem_singleton]
      exact fun f => hholds.not_ends
    exact check_eq_error_iff.2 ⟨[classAdded], ⟨"n.py", "n.py", []⟩, [], by decide, hbefore, hnul⟩

end ChangeLint.Checker.Documentation
