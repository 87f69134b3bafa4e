/-
Name-status listings. Version control writes a status and its paths, each field ended by a NUL; `frame` turns that
into framed records, the path field between percent signs and the status between hash signs, and `Record.read` turns a
record into a change.

In a record the status is the last pair of hash signs, so that paths may hold both signs; the path field runs from the
first percent sign to the one before the status.
-/
import ChangeLint.Change.Basic
import ChangeLint.Framing
import ChangeLint.Log
import ChangeLint.Number.Text

namespace ChangeLint.Status

/-- one line of a listing: a status and its paths -/
structure Listing where
  status : List Char
  paths : List (List Char)
deriving DecidableEq, Repr

/-- the number of paths after a status: two after a rename or a copy -/
def width (status : List Char) : Nat :=
  match status with
  | 'R' :: _ => 2
  | 'C' :: _ => 2
  | _ => 1

/-- the listings among NUL-separated fields, and the status at which the fields ran out, if they did -/
def listings : List (List Char) → List Listing × Option (List Char)
  | [] => ([], none)
  | field :: fields =>
    let status := Text.trim Text.isBlank field
    if status.isEmpty then listings fields
    else
      let n := width status
      if (fields.take n).length = n then
        let rest := listings (fields.drop n)
        (⟨status, fields.take n⟩ :: rest.1, rest.2)
      else ([], some status)
termination_by fields => fields.length
decreasing_by all_goals simp only [List.length_drop, List.length_cons]; omega

def Listing.frame (l : Listing) : List Char :=
  '%' :: (['\t'].intercalate l.paths ++ "% #".toList ++ l.status ++ '#' :: Framing.delimiter)

/-- a NUL-separated listing as framed records -/
def frame (raw : String) : String :=
  String.ofList ((listings (Text.pieces '\x00' raw.toList)).1.flatMap Listing.frame)

/-- what framing reports: the status whose paths are missing -/
def frameLog (raw : String) : List Entry :=
  match (listings (Text.pieces '\x00' raw.toList)).2 with
  | none => []
  | some status => [⟨.debug, "Truncated name-status record for status " ++ String.ofList status⟩]

/-- path field and status of a record -/
structure Fields where
  path : List Char
  status : List Char
deriving DecidableEq, Repr

/-- the fields of a record, if it is framed as it should be -/
def fields? (record : List Char) : Option Fields :=
  match Text.splitLast? ['#'] (Text.trimEnd Text.isBlank record) with
  | some (body, []) =>
    match Text.splitLast? ['#'] body with
    | some (field, status) =>
      match Text.splitLast? ['%'] (Text.trimEnd Text.isBlank field) with
      | some (front, []) =>
        match front.dropWhile (· ≠ '%') with
        | _ :: path => some ⟨path, Text.trim Text.isBlank status⟩
        | [] => none
      | _ => none
    | none => none
  | _ => none

/-- why a record yields no change -/
inductive Skipped
  | malformed (record : String)
  | renameWithoutPair (record : String)
  | unknownStatus (status path : String)
deriving DecidableEq, Repr

/-- what is reported of a skipped record -/
def Skipped.entry : Skipped → Entry
  | .malformed r => ⟨.debug, "Skipping malformed status record: " ++ Text.quote r⟩
  | .renameWithoutPair r => ⟨.debug, "Skipping rename record without an old/new pair: " ++ Text.quote r⟩
  | .unknownStatus status path => ⟨.warning, "Unknown status: " ++ status ++ " for file: " ++ path⟩

/-- true when a similarity score is 100: the content of a renamed file is the same -/
def isSame (score : List Char) : Bool :=
  match Number.readInt (String.ofList score) with
  | .ok n => n = 100
  | .error _ => false

/-- the change that a record tells -/
def readRecord (record : String) : Except Skipped FileChange :=
  match fields? record.toList with
  | none => .error (.malformed record)
  | some ⟨path, status⟩ =>
    let text := String.ofList path
    match status with
    | ['A'] => .ok (.added text)
    | ['D'] => .ok (.deleted text)
    | ['M'] => .ok (.modified text)
    | 'R' :: score =>
      match Text.pieces '\t' path with
      | [old, new] =>
        if old.isEmpty || new.isEmpty then .error (.renameWithoutPair record)
        else .ok (.renamed (String.ofList old) (String.ofList new) (!isSame score))
      | _ => .error (.renameWithoutPair record)
    | _ => .error (.unknownStatus (String.ofList status) text)

/-- the changes that the records of a framed text tell, in their order -/
def changes (framed : String) : List FileChange :=
  (Framing.records framed).filterMap fun r => (readRecord r).toOption

/-- what is reported of the skipped records of a framed text -/
def skippedLog (framed : String) : List Entry :=
  (Framing.records framed).filterMap fun r => match readRecord r with
    | .ok _ => none
    | .error s => some s.entry

/-- the set of changes of a framed text -/
def resolve (framed : String) : ChangeSet := ChangeSet.ofList (changes framed)

/-- the set of changes of several framed texts -/
def resolveAll (texts : List String) : ChangeSet := ChangeSet.ofList (texts.flatMap changes)

end ChangeLint.Status
