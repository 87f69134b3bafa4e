/-
Findings: what checkers report. A finding is about a merge request as a whole, about a file, or about a line of a file.
It carries a text, the source it comes from and a severity.

Checkers fill the free fields with texts (and a line with a number). A finding that came over the wire may hold any
datum there, so the fields are data; `Finding.IsTyped` says that all of them are what a checker would have written.

`Finding.identity` is the same for findings that say the same of the same place; `identityText` is what it is made of.
-/
import ChangeLint.Diff.Basic
import ChangeLint.Failure
import ChangeLint.Interpreter
import ChangeLint.Sha256

namespace ChangeLint

inductive Severity
  | error
  | warning
deriving DecidableEq, Repr

namespace Severity

def word : Severity → String
  | .error => "error"
  | .warning => "warning"

def all : List Severity := [.error, .warning]

def ofWord? (s : String) : Option Severity := all.find? fun x => x.word = s

/-- words stand for the severities that have them -/
theorem ofWord?_word (x : Severity) : ofWord? x.word = some x := by
  cases x <;> decide

end Severity

/-- the checker or the family of rules that a finding comes from -/
structure Source where
  title : Datum
  description : Datum
deriving Repr

/-- a finding: its place, its text, its source and its severity; a line finding also tells what became of the line -/
inductive Finding
  | mergeRequest (text : Datum) (source : Source) (severity : Severity)
  | file (path text : Datum) (source : Source) (severity : Severity)
  | line (path line : Datum) (kind : LineKind) (text : Datum) (source : Source) (severity : Severity)
deriving Repr

def Datum.isText : Datum → Bool
  | .text _ => true
  | _ => false

def Datum.isTextOrInt : Datum → Bool
  | .text _ => true
  | .int _ => true
  | _ => false

namespace Finding

/-- the text of a datum as a datum, if the stack is large enough for writing it -/
def written [Interpreter] (d : Datum) : Except Failure Datum :=
  match Interpreter.unwritten? .literal d with
  | some m => .error (.exhausted m)
  | none => d.written.mapError .tooLong

def text : Finding → Datum
  | .mergeRequest t _ _ => t
  | .file _ t _ _ => t
  | .line _ _ _ t _ _ => t

def source : Finding → Source
  | .mergeRequest _ s _ => s
  | .file _ _ s _ => s
  | .line _ _ _ _ s _ => s

def severity : Finding → Severity
  | .mergeRequest _ _ x => x
  | .file _ _ _ x => x
  | .line _ _ _ _ _ x => x

def scope : Finding → String
  | .mergeRequest _ _ _ => "merge_request"
  | .file _ _ _ _ => "file"
  | .line _ _ _ _ _ _ => "line"

/-- true of findings about a merge request -/
def isMergeRequest : Finding → Bool
  | .mergeRequest _ _ _ => true
  | _ => false

/-- true of a finding whose free fields are texts, its line a text or an integer -/
def IsTyped (f : Finding) : Prop :=
  f.text.isText ∧ f.source.title.isText ∧ f.source.description.isText ∧
    match f with
    | .mergeRequest _ _ _ => True
    | .file path _ _ _ => path.isText
    | .line path number _ _ _ _ => path.isText ∧ number.isTextOrInt

/-- where a finding is; a line finding joins path and line, which fails when an integer is too long to be written -/
def location [Interpreter] : Finding → Except Failure Datum
  | .mergeRequest _ _ _ => .ok (.text "merge request")
  | .file path _ _ _ => .ok path
  | .line path number _ _ _ _ => do
    let p ← written path
    let n ← written number
    pure (.ofSigns (p.signs ++ Text.signs [':'] ++ n.signs))

/-- the number of a line: an integer, or a datum whose text is one -/
def lineNumberOf : Datum → Option Int
  | .bool _ => none
  | .int n => some n
  | d => (Number.readInt (Text.stripped d.plain)).toOption

/-- the line number of a finding, none when it has no line or its line is no number -/
def lineNumber? : Finding → Option Int
  | .line _ number _ _ _ _ => lineNumberOf number
  | _ => none

/-- what separates the parts of an identity -/
def unitSeparator : String := "\x1f"

/-- why parts cannot be joined: the first that is no text -/
def misfit? (parts : List Datum) : Option Failure :=
  ((List.range parts.length).zip parts).findSome? fun p =>
    if p.2.isString then none else some (.misuse (.joined p.1 p.2.kindName))

/-- parts joined with the separator; every part must be a text, and the whole must have bytes -/
def joinParts (parts : List Datum) : Except Failure String :=
  match misfit? parts with
  | some f => .error f
  | none => Failure.settled fun half => .ok (unitSeparator.intercalate (parts.map (Datum.shown half)))

/-- the parts of an identity: scope, place and text, but neither source nor severity nor kind -/
def identityParts [Interpreter] (f : Finding) : Except Failure (List Datum) :=
  match f with
  | .mergeRequest t _ _ => .ok [.text f.scope, t]
  | .file path t _ _ => .ok [.text f.scope, path, t]
  | .line path number _ t _ _ => (written number).map fun n => [.text f.scope, path, n, t]

/-- the text that an identity is the digest of -/
def identityText [Interpreter] (f : Finding) : Except Failure String := f.identityParts >>= joinParts

/-- sixteen hexadecimal digits that stand for scope, place and text -/
def identity [Interpreter] (f : Finding) : Except Failure String :=
  f.identityText.map fun s =>
    let bytes := Sha256.digest (Text.Utf8.encode s.toList)
    String.ofList ((bytes.flatMap fun b => Text.hexPadded 2 b.toNat).take 16)

end Finding

end ChangeLint
