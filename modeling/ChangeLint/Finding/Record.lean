/-
Findings as data. A file or line finding travels as a table with its kind and its fields; a payload is the JSON text of a
list of them, in UTF-8. Findings about a merge request have no record and are not sent.

`decode` reads a payload. A record must have the members that its kind needs, a known severity and a known kind of line;
the free fields are taken as they are.
-/
import ChangeLint.Finding.Basic
import ChangeLint.Json.Writer

namespace ChangeLint.Finding

def sourceDatum (s : Source) : Datum := .table [("title", s.title), ("description", s.description)]

def tagged (tag : String) (fields : List (String × Datum)) : List (String × Datum) :=
  [("type", .text tag), ("finding", .table fields)]

/-- the members of a finding's record, none for one that does not travel -/
def record? : Finding → Option (List (String × Datum))
  | .line path number kind text source severity => some (tagged "line"
      [("path", path), ("line", number), ("change_kind", .text kind.word), ("text", text),
        ("source", sourceDatum source), ("severity", .text severity.word)])
  | .file path text source severity => some (tagged "file"
      [("path", path), ("text", text), ("source", sourceDatum source), ("severity", .text severity.word)])
  | .mergeRequest _ _ _ => none

/-- the payload of findings, as text -/
def encodeText [Interpreter] (fs : List Finding) : Except Failure String :=
  Json.text Json.compact (.list ((fs.filterMap record?).map .table))

/-- the payload of findings -/
def encode [Interpreter] (fs : List Finding) : Except Failure (List UInt8) :=
  (encodeText fs).map fun s => Text.Utf8.encode s.toList

/-- why a record is no finding -/
inductive RecordError
  | misuse (m : Misuse)
  | notAValue (value : Datum) (type : String)
  | unknownTag (tag : Datum)
deriving Repr

def RecordError.reason : RecordError → String
  | .misuse (.missingKey key) => "malformed finding record: KeyError(" ++ Text.quote key ++ ")"
  | .misuse m => "malformed finding record: TypeError(" ++ Text.quote m.message ++ ")"
  | .notAValue v type => "malformed finding record: ValueError(" ++ Text.quote (Failure.notAValue v type).message ++ ")"
  | .unknownTag t => "unknown finding type: " ++ t.literal

/-- a member of a datum that should be a table -/
def member (key : String) (d : Datum) : Except RecordError Datum :=
  match d.member? key with
  | some (some v) => .ok v
  | some none => .error (.misuse (.missingKey key))
  | none => .error (.misuse (.member d.kindName))

def severityOf (d : Datum) : Except RecordError Severity :=
  match d with
  | .text s => match Severity.ofWord? s with
    | some x => .ok x
    | none => .error (.notAValue d "Severity")
  | _ => .error (.notAValue d "Severity")

def kindOf (d : Datum) : Except RecordError LineKind :=
  match d with
  | .text s => match LineKind.ofWord? s with
    | some x => .ok x
    | none => .error (.notAValue d "DiffLineKind")
  | _ => .error (.notAValue d "DiffLineKind")

def ofRecord (record : Datum) : Except RecordError Finding := do
  let tag ← member "type" record
  let body ← member "finding" record
  let title ← member "source" body >>= member "title"
  let description ← member "source" body >>= member "description"
  let severity ← member "severity" body >>= severityOf
  match tag with
  | .text "line" =>
    let path ← member "path" body
    let number ← member "line" body
    let kind ← member "change_kind" body >>= kindOf
    let text ← member "text" body
    .ok (.line path number kind text ⟨title, description⟩ severity)
  | .text "file" =>
    let path ← member "path" body
    let text ← member "text" body
    .ok (.file path text ⟨title, description⟩ severity)
  | _ => .error (.unknownTag tag)

/-- the findings of records, up to the first that is none -/
def ofRecords : List Datum → Except Failure (List Finding)
  | [] => .ok []
  | d :: ds =>
    match ofRecord d with
    | .error e => .error (.fault (.undecodable e.reason none))
    | .ok f => (ofRecords ds).map (f :: ·)

/-- the findings of a payload's text, if the stack is large enough for reading it; `size` is the length of the payload -/
def ofText [Interpreter] (size : Nat) (text : List Char) : Except Failure (List Finding) :=
  match Interpreter.overrun? .payload text with
  | some m => .error (.exhausted m)
  | none => match Json.read text with
    | .error ⟨.tooLong e, _⟩ => .error (.tooLong e)
    | .error e => .error (.fault (.undecodable (e.message text) (some size)))
    | .ok (.list records) => ofRecords records
    | .ok _ => .error (.fault (.undecodable "payload is not a list" (some size)))

def decode [Interpreter] (payload : List UInt8) : Except Failure (List Finding) :=
  match Text.Utf8.decode payload with
  | .error e => .error (.fault (.undecodable e.message (some payload.length)))
  | .ok text => ofText payload.length text

end ChangeLint.Finding
