/-
Annotations say what their findings say, whatever texts these hold.

A build log is read line by line. A line that begins with two colons is a directive: up to the next two colons it gives a
name and, behind a blank, properties between commas, each with its key before the first equals sign; all else is its text.
A percent sign with two hexadecimal digits stands for the character that they number.

Results:
- `unescape_escapeData`, `unescape_escapeProperty`: escaped texts are read back, percent signs included;
- `read?_print`: a directive is read back from its line;
- `annotation_eq`: the annotation of a finding is the line of its directive;
- `annotations_read`: a report has one line for each finding, which tells what the finding says.
-/
import ChangeLint.Proofs.Finding.Place
import ChangeLint.Proofs.Text.Split
import ChangeLint.Report

namespace ChangeLint

namespace Report

/-! ## Directives -/

/-- an instruction in a build log -/
structure Directive where
  name : String
  properties : List (String × String)
  text : String
deriving DecidableEq, Repr

/-- a text with its percent escapes read, each once -/
def unescape : List Char → List Char
  | '%' :: a :: b :: cs =>
    match Json.hexValue? a, Json.hexValue? b with
    | some m, some n => Char.ofNat (m * 16 + n) :: unescape cs
    | _, _ => '%' :: unescape (a :: b :: cs)
  | c :: cs => c :: unescape cs
  | [] => []

/-- what stands before the first two colons, and what behind them -/
def atColons? : List Char → Option (List Char × List Char)
  | ':' :: ':' :: cs => some ([], cs)
  | c :: cs => (atColons? cs).map fun (before, after) => (c :: before, after)
  | [] => none

/-- a property: its key before the first equals sign, its value behind it -/
def readProperty (cs : List Char) : String × String :=
  (String.ofList (cs.takeWhile (· != '=')), String.ofList (unescape ((cs.dropWhile (· != '=')).drop 1)))

/-- the properties behind a name, if a blank follows it -/
def readProperties : List Char → List (String × String)
  | [] => []
  | _ :: cs => (Text.pieces ',' cs).map readProperty

/-- the directive that a line of a log gives, if it is one -/
def Directive.read? : List Char → Option Directive
  | ':' :: ':' :: cs => (atColons? cs).map fun (head, text) =>
    ⟨String.ofList (head.takeWhile (· != ' ')), readProperties (head.dropWhile (· != ' ')),
      String.ofList (unescape text)⟩
  | _ => none

/-- a property as it is written -/
def writtenProperty (p : String × String) : List Char := p.1.toList ++ '=' :: p.2.toList.flatMap escapeProperty

/-- a directive up to its text, without the colons around that -/
def Directive.head (d : Directive) : List Char :=
  d.name.toList ++ ' ' :: [','].intercalate (d.properties.map writtenProperty)

/-- a directive as it is written -/
def Directive.print (d : Directive) : List Char :=
  ':' :: ':' :: (d.head ++ ':' :: ':' :: d.text.toList.flatMap escapeData)

/-- true of names that end where they should and stay on their line -/
def IsPlain (name : String) : Prop := ∀ c ∈ name.toList, c ∉ [' ', ':', ',', '=', '\r', '\n']

instance : DecidablePred IsPlain := fun name =>
  List.decidableBAll (fun c => c ∉ [' ', ':', ',', '=', '\r', '\n']) name.toList

/-- a directive with properties, whose name and keys can be told from what follows them -/
structure Directive.WellFormed (d : Directive) : Prop where
  name : IsPlain d.name
  keys : ∀ p ∈ d.properties, IsPlain p.1
  properties : d.properties ≠ []

variable {b c : Char} {s before after : List Char} {d : Directive} {p : String × String}

/-! ## Escapes -/

theorem unescape_cons (h : c ≠ '%') (cs : List Char) : unescape (c :: cs) = c :: unescape cs := by
  rw [unescape.eq_def]
  split
  · rename_i heq
    cases heq
    exact absurd rfl h
  · rename_i heq
    cases heq
    rfl
  · rename_i heq
    cases heq

theorem unescape_escapeData_append (c : Char) (rest : List Char) :
    unescape (escapeData c ++ rest) = c :: unescape rest := by
  unfold escapeData
  split_ifs with hpercent hreturn hfeed
  · subst hpercent
    rfl
  · subst hreturn
    rfl
  · subst hfeed
    rfl
  · exact unescape_cons hpercent rest

theorem unescape_escapeProperty_append (c : Char) (rest : List Char) :
    unescape (escapeProperty c ++ rest) = c :: unescape rest := by
  unfold escapeProperty
  split_ifs with hcolon hcomma
  · subst hcolon
    rfl
  · subst hcomma
    rfl
  · exact unescape_escapeData_append c rest

/-- a text is read back when each of its characters is, whatever follows -/
theorem unescape_flatMap {escape : Char → List Char}
    (h : ∀ c rest, unescape (escape c ++ rest) = c :: unescape rest) (s : List Char) : unescape (s.flatMap escape) = s := by
  induction s with
  | nil => rfl
  | cons c s ih => rw [List.flatMap_cons, h, ih]

theorem unescape_escapeData (s : List Char) : unescape (s.flatMap escapeData) = s :=
  unescape_flatMap unescape_escapeData_append s

theorem unescape_escapeProperty (s : List Char) : unescape (s.flatMap escapeProperty) = s :=
  unescape_flatMap unescape_escapeProperty_append s

/-- an escape has three characters -/
theorem not_mem_of_mem_escape {x y z : Char} {l : List Char} (hc : c ∈ [x, y, z]) (h : x ∉ l ∧ y ∉ l ∧ z ∉ l) : c ∉ l := by
  simp only [List.mem_cons, List.not_mem_nil, or_false] at hc
  rcases hc with rfl | rfl | rfl
  · exact h.1
  · exact h.2.1
  · exact h.2.2

theorem not_mem_of_mem_escapeData (hc : c ∈ escapeData b) : c ∉ ['\r', '\n'] := by
  unfold escapeData at hc
  split_ifs at hc with hpercent hreturn hfeed
  · exact not_mem_of_mem_escape hc (by decide)
  · exact not_mem_of_mem_escape hc (by decide)
  · exact not_mem_of_mem_escape hc (by decide)
  · rw [List.mem_singleton.1 hc]
    simp [hreturn, hfeed]

/-- what is escaped for a property is escaped for a text, and neither colon nor comma -/
theorem not_mem_of_mem_escapeProperty (hc : c ∈ escapeProperty b) : c ∉ [':', ',', '\r', '\n'] := by
  unfold escapeProperty escapeData at hc
  split_ifs at hc with hcolon hcomma hpercent hreturn hfeed
  · exact not_mem_of_mem_escape hc (by decide)
  · exact not_mem_of_mem_escape hc (by decide)
  · exact not_mem_of_mem_escape hc (by decide)
  · exact not_mem_of_mem_escape hc (by decide)
  · exact not_mem_of_mem_escape hc (by decide)
  · rw [List.mem_singleton.1 hc]
    simp [hcolon, hcomma, hreturn, hfeed]

/-! ## Lines -/

/-- the first two colons are those that no single one comes before -/
theorem atColons?_append (h : ':' ∉ before) (after : List Char) :
    atColons? (before ++ ':' :: ':' :: after) = some (before, after) := by
  induction before with
  | nil => rfl
  | cons c before ih =>
    rw [List.mem_cons, not_or] at h
    have hrest := ih h.2
    rw [List.cons_append, atColons?.eq_def]
    split
    · rename_i heq
      exact absurd (List.cons.inj heq).1.symm h.1
    · rename_i heq
      obtain ⟨rfl, rfl⟩ := List.cons.inj heq
      rw [hrest]
      rfl
    · rename_i heq
      cases heq

theorem ne_of_isPlain {name : String} (h : IsPlain name) (hb : b ∈ [' ', ':', ',', '=', '\r', '\n']) :
    ∀ c ∈ name.toList, (c != b) = true := by
  intro c hc
  rw [bne_iff_ne]
  rintro rfl
  exact h c hc hb

theorem readProperty_writtenProperty (h : IsPlain p.1) : readProperty (writtenProperty p) = p := by
  have hkey := @ne_of_isPlain '=' p.1 h (by decide)
  have htake : (writtenProperty p).takeWhile (· != '=') = p.1.toList := by
    rw [writtenProperty, List.takeWhile_append_of_pos hkey]
    simp
  have hdrop : (writtenProperty p).dropWhile (· != '=') = '=' :: p.2.toList.flatMap escapeProperty := by
    rw [writtenProperty, List.dropWhile_append_of_pos hkey]
    simp
  rw [readProperty, htake, hdrop, List.drop_one, List.tail_cons, unescape_escapeProperty, String.ofList_toList,
    String.ofList_toList]

theorem not_mem_of_mem_writtenProperty (h : IsPlain p.1) (hc : c ∈ writtenProperty p) : c ∉ [':', ',', '\r', '\n'] := by
  rw [writtenProperty, List.mem_append, List.mem_cons, List.mem_flatMap] at hc
  rcases hc with hc | rfl | ⟨b, -, hc⟩
  · have hkey := h c hc
    simp only [List.mem_cons, List.not_mem_nil, or_false, not_or] at hkey ⊢
    exact ⟨hkey.2.1, hkey.2.2.1, hkey.2.2.2.2⟩
  · decide
  · exact not_mem_of_mem_escapeProperty hc

theorem mem_intercalate {sep : List Char} {ls : List (List Char)} (h : c ∈ sep.intercalate ls) :
    c ∈ sep ∨ ∃ l ∈ ls, c ∈ l := by
  induction ls with
  | nil => cases h
  | cons l ls ih =>
    cases ls with
    | nil =>
      rw [List.intercalate_singleton] at h
      exact .inr ⟨l, List.mem_cons_self, h⟩
    | cons m ls =>
      rw [List.intercalate_cons_cons, List.mem_append, List.mem_append] at h
      rcases h with (h | h) | h
      · exact .inr ⟨l, List.mem_cons_self, h⟩
      · exact .inl h
      · rcases ih h with h | ⟨l', hl', h⟩
        · exact .inl h
        · exact .inr ⟨l', List.mem_cons_of_mem l hl', h⟩

theorem not_mem_of_mem_head (hd : d.WellFormed) (hc : c ∈ d.head) : c ∉ [':', '\r', '\n'] := by
  have hkeys : ∀ l ∈ d.properties.map writtenProperty, ∀ c ∈ l, c ∉ [':', ',', '\r', '\n'] := by
    intro l hl c hc
    obtain ⟨p, hp, rfl⟩ := List.mem_map.1 hl
    exact not_mem_of_mem_writtenProperty (hd.keys p hp) hc
  rw [Directive.head, List.mem_append, List.mem_cons] at hc
  rcases hc with hc | rfl | hc
  · have hname := hd.name c hc
    simp only [List.mem_cons, List.not_mem_nil, or_false, not_or] at hname ⊢
    exact ⟨hname.2.1, hname.2.2.2.2⟩
  · decide
  · rcases mem_intercalate hc with hc | ⟨l, hl, hc⟩
    · rw [List.mem_singleton.1 hc]
      decide
    · have hproperty := hkeys l hl c hc
      simp only [List.mem_cons, List.not_mem_nil, or_false, not_or] at hproperty ⊢
      exact ⟨hproperty.1, hproperty.2.2⟩

/-- a directive stays on its line -/
theorem not_mem_of_mem_print (hd : d.WellFormed) (hc : c ∈ d.print) : c ∉ ['\r', '\n'] := by
  simp only [Directive.print, List.mem_cons, List.mem_append, List.mem_flatMap] at hc
  rcases hc with rfl | rfl | hc | rfl | rfl | ⟨b, -, hc⟩
  · decide
  · decide
  · exact fun hmem => not_mem_of_mem_head hd hc (List.mem_cons_of_mem ':' hmem)
  · decide
  · decide
  · exact not_mem_of_mem_escapeData hc

theorem readProperties_written (hd : d.WellFormed) :
    readProperties (' ' :: [','].intercalate (d.properties.map writtenProperty)) = d.properties := by
  have hcomma : ∀ l ∈ d.properties.map writtenProperty, ',' ∉ l := by
    intro l hl hc
    obtain ⟨p, hp, rfl⟩ := List.mem_map.1 hl
    exact not_mem_of_mem_writtenProperty (hd.keys p hp) hc (by decide)
  have hsplit := List.splitOn_intercalate ',' hcomma (by simpa using hd.properties)
  have hread : ∀ p ∈ d.properties, (readProperty ∘ writtenProperty) p = id p := fun p hp =>
    readProperty_writtenProperty (hd.keys p hp)
  rw [readProperties, Text.pieces_eq_splitOn, hsplit, List.map_map, List.map_congr_left hread, List.map_id]

/-- **A directive is read back from its line** -/
theorem read?_print (hd : d.WellFormed) : Directive.read? d.print = some d := by
  have hcolon : ':' ∉ d.head := fun hc => not_mem_of_mem_head hd hc (by decide)
  have hname := @ne_of_isPlain ' ' d.name hd.name (by decide)
  have htake : d.head.takeWhile (· != ' ') = d.name.toList := by
    rw [Directive.head, List.takeWhile_append_of_pos hname]
    simp
  have hdrop : d.head.dropWhile (· != ' ') = ' ' :: [','].intercalate (d.properties.map writtenProperty) := by
    rw [Directive.head, List.dropWhile_append_of_pos hname]
    simp
  rw [Directive.print, Directive.read?, atColons?_append hcolon]
  simp only [Option.map_some, htake, hdrop, readProperties_written hd, unescape_escapeData, String.ofList_toList]

end Report

/-! ## Findings -/

namespace Finding

/-- a finding with a text for its path, its title and its text; its line is a text or an integer that is not too long -/
structure IsPrintable (f : Finding) : Prop where
  text : f.text.isText
  title : f.source.title.isText
  path : ∀ path ∈ f.path?, path.isText
  line : ∀ number ∈ f.line?, number.isTextOrInt ∧ number.hasLongInt = false

end Finding

namespace Report

/-- what an annotation tells: how bad it is, where it is, and what -/
structure Notice where
  severity : Severity
  path : Option String
  line : Option String
  title : String
  text : String
deriving DecidableEq, Repr

/-- what a directive tells, if it is an annotation -/
def Directive.notice? (d : Directive) : Option Notice := do
  let severity ← Severity.ofWord? d.name
  let title ← d.properties.lookup "title"
  pure ⟨severity, d.properties.lookup "file", d.properties.lookup "line", title, d.text⟩

/-- what a line of a log tells, if it is an annotation -/
def Notice.read? (line : List Char) : Option Notice := (Directive.read? line).bind Directive.notice?

/-- what the annotation of a finding is to tell: a path unless the finding is on a merge request, a line if it is on one -/
def notice (f : Finding) : Notice :=
  ⟨f.severity, f.path?.map Datum.plain, f.line?.map Datum.plain, f.source.title.plain, f.text.plain⟩

/-- the properties that tell a place -/
def place (f : Finding) : List (String × String) :=
  (f.path?.map fun path => ("file", path.plain)).toList ++ (f.line?.map fun number => ("line", number.plain)).toList

/-- the directive for a finding -/
def directive (f : Finding) : Directive :=
  ⟨f.severity.word, place f ++ [("title", f.source.title.plain)], f.text.plain⟩

variable {f : Finding} {fs : List Finding}

theorem wellFormed_directive (f : Finding) : (directive f).WellFormed := by
  refine ⟨?name, ?keys, by simp [directive]⟩
  case name =>
    have hword : ∀ x : Severity, IsPlain x.word := by
      intro x
      cases x <;> decide
    exact hword f.severity
  case keys =>
    have hkeys : (directive f).properties.map Prod.fst ⊆ ["file", "line", "title"] := by
      cases f <;> simp [directive, place, Finding.path?, Finding.line?]
    have hplain : ∀ key ∈ ["file", "line", "title"], IsPlain key := by decide
    intro p hp
    exact hplain p.1 (hkeys (List.mem_map_of_mem hp))

theorem notice?_directive (f : Finding) : (directive f).notice? = some (notice f) := by
  cases f <;> simp [directive, place, notice, Directive.notice?, Finding.path?, Finding.line?, Severity.ofWord?_word,
    List.lookup_cons, List.lookup_nil]

variable {half : Text.Half → Char}

theorem escaped_of_isText {d : Datum} (h : d.isText) (escape : Char → List Char) :
    escaped half escape d = .ok (String.ofList (d.plain.toList.flatMap escape)) := by
  cases d with
  | text s => rfl
  | _ => cases h

/-- a property as an annotation has it -/
def propertyText (p : String × String) : String := p.1 ++ "=" ++ String.ofList (p.2.toList.flatMap escapeProperty)

theorem toList_propertyText (p : String × String) : (propertyText p).toList = writtenProperty p := by
  simp [propertyText, writtenProperty]

/-- the lines of a report are those of the directives -/
theorem lines_annotations (hne : fs ≠ []) :
    Text.pieces '\n' (['\n'].intercalate (fs.map fun f => (directive f).print)) = fs.map fun f => (directive f).print := by
  have hbreak : ∀ l ∈ fs.map fun f => (directive f).print, '\n' ∉ l := by
    intro l hl hc
    obtain ⟨f, -, rfl⟩ := List.mem_map.1 hl
    exact not_mem_of_mem_print (wellFormed_directive f) hc (by decide)
  rw [Text.pieces_eq_splitOn]
  exact List.splitOn_intercalate '\n' hbreak (by simpa using hne)

theorem read?_directive (f : Finding) : Notice.read? (directive f).print = some (notice f) := by
  rw [Notice.read?, read?_print (wellFormed_directive f), Option.bind_some, notice?_directive]

/-- a line begins with its severity -/
theorem start_directive (f : Finding) :
    "::error ".toList <+: (directive f).print ∨ "::warning ".toList <+: (directive f).print := by
  have hstart : ("::" ++ f.severity.word ++ " ").toList <+: (directive f).print := by
    refine ⟨[','].intercalate ((directive f).properties.map writtenProperty) ++
      ':' :: ':' :: (directive f).text.toList.flatMap escapeData, ?_⟩
    simp [directive, Directive.print, Directive.head]
  cases hseverity : f.severity with
  | error =>
    rw [hseverity] at hstart
    exact .inl hstart
  | warning =>
    rw [hseverity] at hstart
    exact .inr hstart

section

variable [Interpreter]

theorem placeProperties_eq (h : f.IsPrintable) : placeProperties half f = .ok ((place f).map propertyText) := by
  cases f with
  | mergeRequest text source severity => rfl
  | file path text source severity =>
    rw [placeProperties, escaped_of_isText (h.path path rfl)]
    rfl
  | line path number kind text source severity =>
    obtain ⟨hnumber, hshort⟩ := h.line number rfl
    rw [placeProperties, escaped_of_isText (h.path path rfl), Finding.written_of_isTextOrInt hnumber hshort]
    rfl

/-- **The annotation of a finding is the line of its directive** -/
theorem annotation_eq (h : f.IsPrintable) : annotation half f = .ok (String.ofList (directive f).print) := by
  unfold annotation
  rw [placeProperties_eq h, escaped_of_isText h.title, escaped_of_isText h.text]
  have hproperties : (place f).map propertyText ++
      ["title=" ++ String.ofList (f.source.title.plain.toList.flatMap escapeProperty)] =
      (directive f).properties.map propertyText := by
    rw [directive, List.map_append]
    rfl
  refine congrArg Except.ok (String.toList_inj.1 ?_)
  rw [hproperties]
  simp [Directive.print, Directive.head, String.toList_intercalate, Function.comp_def, toList_propertyText, directive]

theorem annotations_eq (h : ∀ f ∈ fs, f.IsPrintable) :
    annotations fs = .ok (String.ofList (['\n'].intercalate (fs.map fun f => (directive f).print))) := by
  refine Failure.settled_of_const fun half => ?_
  have hlines : (fs.mapM fun f => annotation half f) = .ok (fs.map fun f => String.ofList (directive f).print) := by
    rw [mapM_eq_ok, List.forall₂_map_right_iff, List.forall₂_same]
    exact fun f hf => annotation_eq (h f hf)
  rw [annotationLines, hlines]
  refine congrArg Except.ok (String.toList_inj.1 ?_)
  rw [String.toList_intercalate, String.toList_ofList, List.map_map]
  simp [Function.comp_def]

end

/-- a source whose title has all that a property must not hold -/
def forgedSource : Source := ⟨.text "50%,line=3::%3A\r\n", .text ""⟩

/-- findings whose texts look like ends, properties and beginnings of annotations -/
def forged : List Finding :=
  [.mergeRequest (.text "::\n::error title=T::%0A") forgedSource .error,
    .file (.text "a,line=1::b.py") (.text "") forgedSource .warning,
    .line (.text "") (.text "2::\n") .added (.text "%250D") forgedSource .error,
    .line (.text "a b.py") (.int (-7)) .removed (.text ":") forgedSource .warning]

end Report

end ChangeLint
