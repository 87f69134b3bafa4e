/-
A linter on the files of a diff.

The linter is run on one file after another. A file stops the run when its command fails, or when a line number in its
output has too many digits to be read; then no command comes after it and nothing is found. Else the findings of the files
follow one another, and within a file there is one for each line that the pattern matches.

Results:
- `finding?_of_splits`: a line that is split is a finding, unless its number has too many digits;
- `check_of_readable`, `check_of_stops`: the run to its end, and up to the first file that stops it;
- `lints_check`: both under the default pattern, with the lines that are sure to be findings;
- `oversized_stops`: one such number, and the files after it are never looked at.
-/
import ChangeLint.Interpreter.Usual
import ChangeLint.Proofs.Act
import ChangeLint.Proofs.Checker.DefaultPattern

namespace ChangeLint.Checker.Formatter

open Pattern Text

/-! ## What a run depends on -/

/-- the files that the linter is run on: those with a suffix that it reads, but for the names that it skips -/
def wanted (f : Formatter) (diffs : List FileDiff) : List FileDiff :=
  diffs.filter fun d => Path.suffix d.newPath ∈ f.extensions ∧ Path.name d.newPath ∉ f.excluded

/-- the command for a file -/
def commandFor (f : Formatter) (d : FileDiff) : List String := f.argv ++ [d.newPath]

/-- true of the lines of output that the pattern matches -/
def isMatch (f : Formatter) (text : String) : Bool := (f.pattern.search? text.toList).isSome

/-- a pattern matches a line of output and captures a line number and a message in it -/
def Splits (p : Pattern) (text : String) (digits message : List Char) : Prop :=
  ∃ m, p.search? text.toList = some m ∧ p.named? m "line" = some digits ∧ p.named? m "message" = some message

/-- a line of output in which no line number has too many digits -/
def Readable (p : Pattern) (text : String) : Prop :=
  ∀ digits message, Splits p text digits message → digits.length ≤ Number.digitLimit

/-- the finding that a line number and a message tell of a file; the message loses the full stops at its end -/
def told (d : FileDiff) (digits message : List Char) : Finding :=
  .line d.newPath (.int (ofDigits digits)) (d.kindOf (ofDigits digits)) (String.ofList (trimEnd (· = '.') message)) source
    .error

/-- a finding is what a line of output tells of a file -/
def IsToldBy (f : Formatter) (d : FileDiff) (text : String) (x : Finding) : Prop :=
  ∃ digits message, Splits f.pattern text digits message ∧ digits.length ≤ Number.digitLimit ∧ x = told d digits message

/-- a file has an answer in which every line can be read -/
def IsReadable (f : Formatter) (c : Commands) (d : FileDiff) : Prop :=
  ∃ output, c.lines (f.commandFor d) = .ok output ∧ ∀ text ∈ output, Readable f.pattern text

/-- the findings of a file: one for each line of the answer that the pattern matches, in order -/
def Yields (f : Formatter) (c : Commands) (d : FileDiff) (fs : List Finding) : Prop :=
  ∃ output, c.lines (f.commandFor d) = .ok output ∧ List.Forall₂ (f.IsToldBy d) (output.filter f.isMatch) fs

/-- what stops a run at a file: its command fails, or a line number in its answer is the first with too many digits -/
inductive Stops (f : Formatter) (c : Commands) (d : FileDiff) : Failure → Prop
  | stream {e : Failure} (answer : c.lines (f.commandFor d) = .error e) : Stops f c d e
  | oversized {before after : List String} {text : String} {digits message : List Char}
    (answer : c.lines (f.commandFor d) = .ok (before ++ text :: after)) (first : ∀ t ∈ before, Readable f.pattern t)
    (splits : Splits f.pattern text digits message) (long : Number.digitLimit < digits.length) :
    Stops f c d (.notANumber (.tooLong (.reading digits.length)))

variable {f : Formatter} {c : Commands} {p : Pattern} {d : FileDiff} {diffs : List FileDiff} {text : String}
variable {digits message : List Char} {output : List String} {fs : List Finding} {e : Failure}

/-! ## What is read of a line -/

theorem Splits.eq {digits' message' : List Char} (h : Splits p text digits message) (h' : Splits p text digits' message') :
    digits = digits' ∧ message = message' := by
  obtain ⟨m, hm, hline, hmessage⟩ := h
  obtain ⟨m', hm', hline', hmessage'⟩ := h'
  obtain rfl : m = m' := Option.some.inj (hm.symm.trans hm')
  exact ⟨Option.some.inj (hline.symm.trans hline'), Option.some.inj (hmessage.symm.trans hmessage')⟩

theorem Splits.isMatch (h : Splits f.pattern text digits message) : f.isMatch text = true := by
  obtain ⟨m, hm, -⟩ := h
  rw [Formatter.isMatch, hm]
  rfl

theorem Splits.readable_iff (h : Splits p text digits message) : Readable p text ↔ digits.length ≤ Number.digitLimit :=
  ⟨fun hreadable => hreadable _ _ h, fun hlen _ _ h' => (h.eq h').1 ▸ hlen⟩

theorem Splits.isToldBy_iff {x : Finding} (h : Splits f.pattern text digits message)
    (hlen : digits.length ≤ Number.digitLimit) : f.IsToldBy d text x ↔ x = told d digits message := by
  constructor
  · rintro ⟨digits', message', h', -, rfl⟩
    rw [(h.eq h').1, (h.eq h').2]
  · rintro rfl
    exact ⟨digits, message, h, hlen, rfl⟩

/-- a telling pattern splits every line that it matches -/
theorem exists_splits (h : isTelling f.pattern = true) (hmatch : f.isMatch text = true) :
    ∃ digits message, Splits f.pattern text digits message := by
  obtain ⟨m, hm⟩ := Option.isSome_iff_exists.1 hmatch
  obtain ⟨⟨digits, hline, -⟩, message, hmessage⟩ := captured_of_isTelling h hm
  exact ⟨digits, message, m, hm, hline, hmessage⟩

/-- **A line that is split** is a finding, unless its number has too many digits -/
theorem finding?_of_splits (h : isTelling f.pattern = true) (hsplits : Splits f.pattern text digits message) :
    f.finding? d text = if Number.digitLimit < digits.length then
      .error (.notANumber (.tooLong (.reading digits.length)))
    else .ok (some (told d digits message)) := by
  obtain ⟨m, hm, hline, hmessage⟩ := hsplits
  obtain ⟨⟨digits', hline', hne, hdigits⟩, -⟩ := captured_of_isTelling h hm
  obtain rfl : digits = digits' := Option.some.inj (hline.symm.trans hline')
  simp only [finding?, hm, hline, hmessage, lineNumber, Number.readInt_digits hdigits hne, Number.ofDigits]
  split_ifs <;> rfl

theorem finding?_of_not_isMatch (h : f.isMatch text = false) : f.finding? d text = .ok none := by
  have hnone : f.pattern.search? text.toList = none := by simpa [isMatch] using h
  rw [finding?, hnone]

/-- **A readable line** is a finding if it is matched, and nothing else -/
theorem exists_finding? (h : isTelling f.pattern = true) (hreadable : Readable f.pattern text) :
    ∃ r, f.finding? d text = .ok r ∧ (f.isMatch text = false → r = none) ∧
      (f.isMatch text = true → ∃ x, r = some x ∧ f.IsToldBy d text x) := by
  cases hmatch : f.isMatch text with
  | false => exact ⟨none, finding?_of_not_isMatch hmatch, fun _ => rfl, by simp⟩
  | true =>
    obtain ⟨digits, message, hsplits⟩ := exists_splits h hmatch
    have hlen := hreadable _ _ hsplits
    exact ⟨_, (finding?_of_splits h hsplits).trans (if_neg (not_lt.2 hlen)), by simp,
      fun _ => ⟨_, rfl, digits, message, hsplits, hlen, rfl⟩⟩

/-! ## What is read of an answer -/

theorem findings_cons {r : Option Finding} (htext : f.finding? d text = .ok r) (houtput : f.findings d output = .ok fs) :
    f.findings d (text :: output) = .ok (r.toList ++ fs) := by
  obtain ⟨found, hfound, hfs⟩ := bind_eq_ok houtput
  cases hfs
  rw [findings, List.mapM_cons, htext, ok_bind, hfound]
  cases r <;> rfl

/-- **A readable answer** has a finding for each line that is matched -/
theorem exists_findings (h : isTelling f.pattern = true) (houtput : ∀ text ∈ output, Readable f.pattern text) :
    ∃ fs, f.findings d output = .ok fs ∧ List.Forall₂ (f.IsToldBy d) (output.filter f.isMatch) fs := by
  induction output with
  | nil => exact ⟨[], rfl, .nil⟩
  | cons text output ih =>
    obtain ⟨htext, houtput⟩ := List.forall_mem_cons.1 houtput
    obtain ⟨fs, hfs, hall⟩ := ih houtput
    obtain ⟨r, hr, hno, hyes⟩ := exists_finding? (d := d) h htext
    refine ⟨_, findings_cons hr hfs, ?_⟩
    rw [List.filter_cons]
    cases hmatch : f.isMatch text with
    | false =>
      rw [hno hmatch]
      exact hall
    | true =>
      obtain ⟨x, rfl, hx⟩ := hyes hmatch
      exact .cons hx hall

/-- an answer fails with its first number of too many digits -/
theorem findings_of_oversized {before after : List String} (h : isTelling f.pattern = true)
    (hbefore : ∀ t ∈ before, Readable f.pattern t) (hsplits : Splits f.pattern text digits message)
    (hlong : Number.digitLimit < digits.length) :
    f.findings d (before ++ text :: after) = .error (.notANumber (.tooLong (.reading digits.length))) := by
  have hread : ∀ t ∈ before, ∃ r, f.finding? d t = .ok r := by
    intro t ht
    obtain ⟨r, hr, -⟩ := exists_finding? (d := d) h (hbefore t ht)
    exact ⟨r, hr⟩
  rw [findings, mapM_eq_error hread ((finding?_of_splits h hsplits).trans (if_pos hlong))]
  rfl

/-! ## Single files -/

theorem calls_checkFile : (f.checkFile c d).calls = [f.commandFor d] := by
  rw [checkFile]
  cases hanswer : (c.stream (f.argv ++ [d.newPath])).result with
  | error e => exact Act.calls_bind_of_error hanswer _
  | ok output =>
    rw [Act.calls_bind_of_ok hanswer, Act.calls_bind_of_silent]
    · rfl
    · exact fun fs => Act.calls_note_bind _ _ _

theorem result_checkFile : (f.checkFile c d).result = c.lines (f.commandFor d) >>= f.findings d := by
  rw [checkFile, Act.result_bind]
  refine congrArg (Except.bind _) (funext fun output => ?_)
  rw [Act.result_bind_eq_map (g := id) (fun fs => Act.result_note_bind _ _ _), Act.result_ofExcept]
  cases f.findings d output <;> rfl

/-- **A readable file** has its findings -/
theorem exists_result_checkFile (h : isTelling f.pattern = true) (hd : f.IsReadable c d) :
    ∃ fs, (f.checkFile c d).result = .ok fs ∧ f.Yields c d fs := by
  obtain ⟨output, hanswer, houtput⟩ := hd
  obtain ⟨fs, hfs, hall⟩ := exists_findings (d := d) h houtput
  exact ⟨fs, by rw [result_checkFile, hanswer, ok_bind, hfs], output, hanswer, hall⟩

theorem exists_results {ds : List FileDiff} (h : isTelling f.pattern = true) (hds : ∀ d ∈ ds, f.IsReadable c d) :
    ∀ d ∈ ds, ∃ fs, (f.checkFile c d).result = .ok fs := by
  intro d hd
  obtain ⟨fs, hfs, -⟩ := exists_result_checkFile h (hds d hd)
  exact ⟨fs, hfs⟩

theorem result_checkFile_of_stops (h : isTelling f.pattern = true) (hd : f.Stops c d e) :
    (f.checkFile c d).result = .error e := by
  rw [result_checkFile]
  cases hd with
  | stream answer => rw [answer, error_bind]
  | oversized answer first splits long => rw [answer, ok_bind, findings_of_oversized h first splits long]

/-- a file is readable or stops the run -/
theorem isReadable_or_stops : f.IsReadable c d ∨ ∃ e, f.Stops c d e := by
  cases hanswer : c.lines (f.commandFor d) with
  | error e => exact .inr ⟨e, .stream hanswer⟩
  | ok output =>
    rcases forall_or_exists_first (Readable f.pattern) output with hall | ⟨before, text, after, rfl, hbefore, htext⟩
    · exact .inl ⟨output, hanswer, hall⟩
    · obtain ⟨digits, message, hsplits, hlong⟩ : ∃ digits message, Splits f.pattern text digits message ∧
          Number.digitLimit < digits.length := by
        simpa [Readable] using htext
      exact .inr ⟨_, .oversized hanswer hbefore hsplits hlong⟩

/-! ## Whole runs -/

theorem check_eq : f.check c diffs = Act.each (f.checkFile c) (f.wanted diffs) >>= fun found => pure found.flatten := by
  have hwanted : (diffs.filter fun d => f.wants d.newPath) = f.wanted diffs :=
    List.filter_congr fun d _ => by simp [wants]
  rw [check, hwanted]

theorem calls_check : (f.check c diffs).calls = (Act.each (f.checkFile c) (f.wanted diffs)).calls := by
  rw [check_eq, Act.calls_bind_of_silent fun _ => Act.calls_pure _]

theorem result_check : (f.check c diffs).result =
    ((f.wanted diffs).mapM fun d => (f.checkFile c d).result).map List.flatten := by
  rw [check_eq, Act.result_bind_eq_map fun _ => Act.result_pure _, Act.result_each]

theorem flatMap_calls (ds : List FileDiff) : (ds.flatMap fun d => (f.checkFile c d).calls) = ds.map f.commandFor := by
  simp only [calls_checkFile, List.map_eq_flatMap]

/-- **Readable files are all linted**, one after another, and their findings follow one another -/
theorem check_of_readable (h : isTelling f.pattern = true) (hall : ∀ d ∈ f.wanted diffs, f.IsReadable c d) :
    (f.check c diffs).calls = (f.wanted diffs).map f.commandFor ∧
      ∃ found, List.Forall₂ (f.Yields c) (f.wanted diffs) found ∧ (f.check c diffs).result = .ok found.flatten := by
  have hresults := exists_results h hall
  refine ⟨by rw [calls_check, Act.calls_each_of_ok hresults, flatMap_calls], ?_⟩
  obtain ⟨found, hfound⟩ := exists_mapM_eq_ok.2 hresults
  refine ⟨found, ?_, by rw [result_check, hfound]; rfl⟩
  refine ((List.forall₂_and_left _ _).2 ⟨hall, mapM_eq_ok.1 hfound⟩).imp ?_
  rintro d fs ⟨hd, hfs⟩
  obtain ⟨fs', hfs', hyields⟩ := exists_result_checkFile h hd
  rwa [Except.ok.inj (hfs.symm.trans hfs')]

/-- **The first file that stops the run** is the last one that is linted, and the run fails as it does -/
theorem check_of_stops {before after : List FileDiff} (h : isTelling f.pattern = true)
    (hdiffs : f.wanted diffs = before ++ d :: after) (hbefore : ∀ d' ∈ before, f.IsReadable c d') (hd : f.Stops c d e) :
    (f.check c diffs).calls = (before ++ [d]).map f.commandFor ∧ (f.check c diffs).result = .error e := by
  have hresults := exists_results h hbefore
  have hresult := result_checkFile_of_stops h hd
  constructor
  · rw [calls_check, hdiffs, Act.calls_each_of_error hresults hresult, flatMap_calls]
  · rw [result_check, hdiffs, mapM_eq_error hresults hresult]
    rfl

/-- what a linter does with the files of a diff, and what it reads of the lines that are sure to be findings -/
structure Lints (f : Formatter) (c : Commands) (diffs : List FileDiff) : Prop where
  /-- all files are readable, or one is the first to stop the run -/
  ends : (∀ d ∈ f.wanted diffs, f.IsReadable c d) ∨ ∃ before d after e,
    f.wanted diffs = before ++ d :: after ∧ (∀ d' ∈ before, f.IsReadable c d') ∧ f.Stops c d e
  /-- in the first case each file has its command, and its findings -/
  finishes : (∀ d ∈ f.wanted diffs, f.IsReadable c d) → (f.check c diffs).calls = (f.wanted diffs).map f.commandFor ∧
    ∃ found, List.Forall₂ (f.Yields c) (f.wanted diffs) found ∧ (f.check c diffs).result = .ok found.flatten
  /-- in the second, no command comes after the one of that file, and its failure is that of the run -/
  stops : ∀ before d after e, f.wanted diffs = before ++ d :: after → (∀ d' ∈ before, f.IsReadable c d') → f.Stops c d e →
    (f.check c diffs).calls = (before ++ [d]).map f.commandFor ∧ (f.check c diffs).result = .error e
  /-- a complaint is matched and tells one finding, on its line and with its message -/
  complains : ∀ (x : Complaint) (d : FileDiff), x.line.length ≤ Number.digitLimit → f.isMatch x.text = true ∧
    (∀ finding, f.IsToldBy d x.text finding ↔ finding = told d x.line x.message) ∧
    f.findings d [x.text] = .ok [told d x.line x.message]

theorem splits_complaint (x : Complaint) : Splits defaultTree x.text x.line x.message := by
  obtain ⟨m, hm, hgroups⟩ := search?_complaint x
  have hcaptured : ∀ g, m.captured? g = List.lookup g [(4, x.message), (3, x.column), (2, x.line), (1, x.path)] :=
    fun g => congrArg (List.lookup g) hgroups
  exact ⟨m, hm, hcaptured 2, hcaptured 4⟩

/-- **A linter under the default pattern** runs on each file that it is meant for, in order, until one of them stops it;
if none does, what it finds is what the lines of output tell, one finding for each that is matched. -/
theorem lints_check [Interpreter] (hp : readPattern defaultPattern = .ok f.pattern) (c : Commands) (diffs : List FileDiff) :
    f.Lints c diffs := by
  have htelling := isTelling_defaultPattern hp
  have htree : defaultTree = f.pattern := Except.ok.inj (readPattern_defaultPattern.symm.trans hp)
  constructor
  case ends =>
    rcases forall_or_exists_first (f.IsReadable c) (f.wanted diffs) with hall | ⟨before, d, after, hdiffs, hbefore, hd⟩
    · exact .inl hall
    · obtain ⟨e, he⟩ := isReadable_or_stops.resolve_left hd
      exact .inr ⟨before, d, after, e, hdiffs, hbefore, he⟩
  case finishes => exact check_of_readable htelling
  case stops => exact fun before d after e => check_of_stops htelling
  case complains =>
    intro x d hlen
    have hsplits : Splits f.pattern x.text x.line x.message := htree ▸ splits_complaint x
    have hfinding := (finding?_of_splits (d := d) htelling hsplits).trans (if_neg (not_lt.2 hlen))
    exact ⟨hsplits.isMatch, fun _ => hsplits.isToldBy_iff hlen, findings_cons hfinding rfl⟩

/-! ## Two files -/

/-- a linter of sources, but for one name -/
def lint : Formatter := ⟨["lint", "--strict"], [".py"], ["setup.py"], defaultTree⟩

/-- a file with one new line, the second one -/
def fileOf (path : String) : FileDiff := ⟨path, path, [⟨.added, "x = 1", none, some 2⟩]⟩

/-- the linter has this to say of one file, and nothing of any other -/
def saying (path : String) (output : List String) : Commands where
  output _ := .ok ""
  lines argv := .ok (if argv = lint.commandFor (fileOf path) then output else [])

/-- a complaint with the look of another one in its message -/
def nested : Complaint where
  path := ['a', '.', 'p', 'y']
  line := ['2']
  column := ['1', '0']
  gap := [' ', ' ']
  message := "E1 see b.py:12:3: here..".toList
  path_ne := by decide
  line_ne := by decide
  column_ne := by decide
  message_ne := by decide
  path_colon := by decide
  path_newline := by decide
  line_digits := List.all_eq_true.1 (by decide)
  column_digits := List.all_eq_true.1 (by decide)
  gap_blank := List.all_eq_true.1 (by decide)
  message_newline := by decide
  message_begins := by rintro _ ⟨⟩; decide
  message_ends := by rintro _ ⟨⟩; decide

/-- four files, of which two are linted -/
def someFiles : List FileDiff := ["a.py", "setup.py", "notes.txt", "b.py"].map fileOf

theorem wanted_someFiles : lint.wanted someFiles = [fileOf "a.py", fileOf "b.py"] := by decide +kernel

/-- Of four files two are linted. The complaint about one of them is split at its first colons, and the line behind it is no
complaint. -/
theorem lints_check_nested : letI : Interpreter := .usual
    readPattern defaultPattern = .ok lint.pattern ∧
      nested.text = "a.py:2:10:  E1 see b.py:12:3: here.." ∧
      (lint.check (saying "a.py" [nested.text, "All done"]) someFiles).calls =
        [["lint", "--strict", "a.py"], ["lint", "--strict", "b.py"]] ∧
      (lint.check (saying "a.py" [nested.text, "All done"]) someFiles).result =
        .ok [.line "a.py" (.int 2) .added "E1 see b.py:12:3: here" source .error] := by
  let : Interpreter := .usual
  have h : lint.Lints (saying "a.py" [nested.text, "All done"]) someFiles :=
    lints_check readPattern_defaultPattern _ _
  obtain ⟨hmatch, htold, -⟩ := h.complains nested (fileOf "a.py") (by decide)
  have hother : lint.isMatch "All done" = false := by decide +kernel
  have hnested : Readable lint.pattern nested.text := (splits_complaint nested).readable_iff.2 (by decide)
  have hdone : Readable lint.pattern "All done" := by
    intro digits message hsplits
    rw [Splits.isMatch (f := lint) hsplits] at hother
    cases hother
  have ha : lint.IsReadable (saying "a.py" [nested.text, "All done"]) (fileOf "a.py") :=
    ⟨[nested.text, "All done"], rfl, by simp [hnested, hdone]⟩
  have hb : lint.IsReadable (saying "a.py" [nested.text, "All done"]) (fileOf "b.py") := ⟨[], rfl, by simp⟩
  obtain ⟨hcalls, found, hfound, hresult⟩ := h.finishes (by rw [wanted_someFiles]; simp [ha, hb])
  rw [wanted_someFiles] at hcalls hfound
  refine ⟨readPattern_defaultPattern, by decide +kernel, hcalls, hresult.trans ?_⟩
  obtain ⟨fsa, rest, ⟨output, houtput, hall⟩, hrest, rfl⟩ := List.forall₂_cons_left_iff.1 hfound
  obtain ⟨fsb, rest, ⟨output', houtput', hall'⟩, hnil, rfl⟩ := List.forall₂_cons_left_iff.1 hrest
  obtain rfl := List.forall₂_nil_left_iff.1 hnil
  obtain rfl : [nested.text, "All done"] = output := Except.ok.inj houtput
  obtain rfl : [] = output' := Except.ok.inj houtput'
  simp only [List.filter_cons, List.filter_nil, hmatch, hother, if_true, Bool.false_eq_true, if_false] at hall hall'
  obtain ⟨x, rest, hx, hnil, rfl⟩ := List.forall₂_cons_left_iff.1 hall
  obtain rfl := List.forall₂_nil_left_iff.1 hnil
  obtain rfl := List.forall₂_nil_left_iff.1 hall'
  rw [(htold x).1 hx]
  rfl

/-! ## A long line number -/

/-- a complaint about a line with a number of `n + 1` digits -/
def oversized (n : Nat) : Complaint where
  path := ['a', '.', 'p', 'y']
  line := List.replicate (n + 1) '1'
  column := ['1']
  gap := [' ']
  message := ['E', '1']
  path_ne := by decide
  line_ne := List.cons_ne_nil _ _
  column_ne := by decide
  message_ne := by decide
  path_colon := by decide
  path_newline := by decide
  line_digits := fun _ hc => by rw [List.eq_of_mem_replicate hc]; rfl
  column_digits := List.all_eq_true.1 (by decide)
  gap_blank := List.all_eq_true.1 (by decide)
  message_newline := by decide
  message_begins := by rintro _ ⟨⟩; decide
  message_ends := by rintro _ ⟨⟩; decide

/-- the first file stops the run, for every number of digits above the limit -/
theorem check_oversized {n : Nat} (h : Number.digitLimit ≤ n) :
    (lint.check (saying "a.py" [(oversized n).text]) someFiles).calls = [["lint", "--strict", "a.py"]] ∧
      (lint.check (saying "a.py" [(oversized n).text]) someFiles).result =
        .error (.notANumber (.tooLong (.reading (n + 1)))) := by
  have hlength : (oversized n).line.length = n + 1 := List.length_replicate
  have hanswer : (saying "a.py" [(oversized n).text]).lines (lint.commandFor (fileOf "a.py")) =
      .ok ([] ++ [(oversized n).text]) := rfl
  have hstops : lint.Stops (saying "a.py" [(oversized n).text]) (fileOf "a.py")
      (.notANumber (.tooLong (.reading (oversized n).line.length))) :=
    .oversized hanswer (by simp) (splits_complaint (oversized n)) (by omega)
  rw [hlength] at hstops
  have hwanted : lint.wanted someFiles = [] ++ fileOf "a.py" :: [fileOf "b.py"] := wanted_someFiles
  exact check_of_stops isTelling_defaultTree hwanted (by simp) hstops

/-- **A long line number stops the run** though no command has failed: the linter is meant for two files and answers for
both, and the second one is never asked for. -/
theorem oversized_stops : letI : Interpreter := .usual
    readPattern defaultPattern = .ok lint.pattern ∧
      lint.wanted someFiles = [fileOf "a.py", fileOf "b.py"] ∧
      (∀ argv, ∃ output, (saying "a.py" [(oversized Number.digitLimit).text]).lines argv = .ok output) ∧
      (lint.check (saying "a.py" [(oversized Number.digitLimit).text]) someFiles).calls = [["lint", "--strict", "a.py"]] ∧
      (lint.check (saying "a.py" [(oversized Number.digitLimit).text]) someFiles).calls ≠
        (lint.wanted someFiles).map lint.commandFor := by
  let : Interpreter := .usual
  have hcalls := (check_oversized (le_refl Number.digitLimit)).1
  refine ⟨readPattern_defaultPattern, wanted_someFiles, fun argv => ⟨_, rfl⟩, hcalls, ?_⟩
  rw [hcalls, wanted_someFiles]
  decide

end ChangeLint.Checker.Formatter
