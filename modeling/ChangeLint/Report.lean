/-
Reports of findings in three formats: a table for people, a JSON list for programs, and annotations, one line for each
finding, for a build log.
-/
import ChangeLint.Act
import ChangeLint.Finding.Record
import ChangeLint.Order
import ChangeLint.Terminal

namespace ChangeLint.Report

inductive Format
  | rich
  | json
  | github
deriving DecidableEq, Repr

namespace Format

def name : Format → String
  | .rich => "rich"
  | .json => "json"
  | .github => "github"

def all : List Format := [.github, .json, .rich]

def ofName? (s : String) : Option Format := all.find? fun f => f.name = s

end Format

/-! Annotations -/

/-- a character of an annotation's text: percent signs and ends of lines are written by their codes -/
def escapeData (c : Char) : List Char :=
  if c = '%' then "%25".toList
  else if c = '\r' then "%0D".toList
  else if c = '\n' then "%0A".toList
  else [c]

/-- a character of an annotation's property, which also ends at colons and commas -/
def escapeProperty (c : Char) : List Char :=
  if c = ':' then "%3A".toList
  else if c = ',' then "%2C".toList
  else escapeData c

/-- a text with its characters escaped, `half` giving those for halves; only texts can be -/
def escaped (half : Text.Half → Char) (escape : Char → List Char) (d : Datum) : Except Failure String :=
  if d.isString then .ok (String.ofList ((d.shown half).toList.flatMap escape))
  else .error (.misuse (.noReplace d.kindName))

variable (half : Text.Half → Char)

def placeProperties [Interpreter] : Finding → Except Failure (List String)
  | .mergeRequest _ _ _ => .ok []
  | .file path _ _ _ => do
    let p ← escaped half escapeProperty path
    pure ["file=" ++ p]
  | .line path number _ _ _ _ => do
    let p ← escaped half escapeProperty path
    let n ← Finding.written number
    let n ← escaped half escapeProperty n
    pure ["file=" ++ p, "line=" ++ n]

def annotation [Interpreter] (f : Finding) : Except Failure String := do
  let place ← placeProperties half f
  let title ← escaped half escapeProperty f.source.title
  let text ← escaped half escapeData f.text
  pure ("::" ++ f.severity.word ++ " " ++ ",".intercalate (place ++ ["title=" ++ title]) ++ "::" ++ text)

/-- the annotations for all findings, `half` standing for halves -/
def annotationLines [Interpreter] (fs : List Finding) : Except Failure String := do
  let lines ← fs.mapM fun f => annotation half f
  pure ("\n".intercalate lines)

def annotations [Interpreter] (fs : List Finding) : Except Failure String := Failure.settled fun half => annotationLines half fs

/-! Records -/

/-- the record of a finding, also of one that does not travel -/
def record : Finding → List (String × Datum)
  | .mergeRequest text source severity => Finding.tagged "merge_request"
      [("text", text), ("source", Finding.sourceDatum source), ("severity", .text severity.word)]
  | f => (Finding.record? f).getD []

/-- the record of a finding with its identity -/
def identified [Interpreter] (f : Finding) : Except Failure Datum := do
  let id ← f.identity
  pure (.table (record f ++ [("id", .text id)]))

/-- the records of all findings, as text -/
def records [Interpreter] (fs : List Finding) : Except Failure String := do
  let ds ← fs.mapM identified
  Json.text Json.indented (.list ds)

/-! The table -/

def tableTitle : String := "Code Styler findings"

/-- the columns of the table; the first two keep their width -/
def columns : List Column :=
  [⟨"Severity", none, false⟩, ⟨"Source", some "cyan", false⟩, ⟨"Location", some "bold", true⟩, ⟨"Message", none, true⟩]

def label : Severity → String
  | .error => Terminal.styled "red bold" "error"
  | .warning => Terminal.styled "yellow" "warning"

/-- a text as markup that shows it; only texts can be -/
def shownText (t : Terminal) (d : Datum) : Except Failure String :=
  if d.isString then .ok (t.escape (d.shown half)) else .error (.misuse (.notText d.kindName))

/-- the markup of a title: a text is one already, and null is empty -/
def titleText : Datum → Except Failure String
  | .null => .ok ""
  | d => if d.isString then .ok (d.shown half) else .error (.misuse (.notRenderable d.kindName))

/-- the markup of a finding's cells -/
def row [Interpreter] (t : Terminal) (f : Finding) : Except Failure (List String) := do
  let location ← f.location
  let location ← shownText half t location
  let message ← shownText half t f.text
  let title ← titleText half f.source.title
  pure [label f.severity, title, location, message]

/-- what findings are sorted by -/
def sortKey [Interpreter] (f : Finding) : Except Failure (List Datum × Finding) :=
  f.location.map fun location => ([f.source.title, location], f)

def count (s : Severity) (fs : List Finding) : Nat := fs.countP fun f => f.severity = s

/-- the markup of the line below the table -/
def summary (fs : List Finding) : String :=
  Terminal.styled "red" s!"{count .error fs} error(s)" ++ ", " ++ Terminal.styled "yellow" s!"{count .warning fs} warning(s)"

/-- the markup that is shown when there is nothing to report -/
def nothingFound : String := Terminal.styled "green" "No issues found in the changed lines."

def sheet [Interpreter] (t : Terminal) (fs : List Finding) : Except Failure Sheet := do
  let keys ← fs.mapM sortKey
  let sorted ← (Order.sort keys).mapError .misuse
  let rows ← sorted.mapM fun f => row half t f.2
  pure ⟨tableTitle, columns, rows⟩

/-- the lines of the table with its summary, or of a message when there is nothing to show -/
def tableLines [Interpreter] (t : Terminal) (fs : List Finding) : Except Failure (List String) :=
  if fs.isEmpty then (t.lines nothingFound).mapError .markup
  else do
    let s ← sheet half t fs
    let table ← (t.table s).mapError .markup
    let below ← (t.lines (summary fs)).mapError .markup
    pure (table ++ below)

def joined (ls : List String) : String := String.join (ls.map (· ++ "\n"))

/-- the report as a text of its own; a table is only shown -/
def text [Interpreter] (f : Format) (fs : List Finding) : Except Failure String :=
  match f with
  | .rich => .ok ""
  | .json => records fs
  | .github => annotations fs

def printed [Interpreter] (f : Format) (t : Terminal) (fs : List Finding) : Except Failure String :=
  match f with
  | .rich => Failure.settled fun half => (tableLines half t fs).map joined
  | f => (text f fs).map (· ++ "\n")

end ChangeLint.Report
