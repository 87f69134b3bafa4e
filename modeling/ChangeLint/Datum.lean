/-
Data whose shape is not known in advance: members of a settings file, fields of a finding that came over the wire, the
details of a fault. A `Datum` is null, a truth value, a number, a text, a moment, a list or a table. Texts and keys that came
over the wire may be broken; such data have constructors of their own.

`literal` writes a datum so that its kind can be told (texts in quotes), `plain` writes a text bare and all else as
`literal` does. `signs` is the text of a datum, halves and all.
-/
import ChangeLint.Number.Text
import ChangeLint.Text.Broken

namespace ChangeLint

structure Day where
  year : Nat
  month : Nat
  day : Nat
deriving DecidableEq, Repr

structure Clock where
  hour : Nat
  minute : Nat
  second : Nat
  microsecond : Nat
deriving DecidableEq, Repr

/-- a day, a time, or both with an optional offset from universal time in minutes -/
inductive Moment
  | day (d : Day)
  | clock (c : Clock)
  | both (d : Day) (c : Clock) (offset : Option Int)
deriving DecidableEq, Repr

/-- data of any shape; a table keeps its members in order, at most one for each key, and is broken if a key is -/
inductive Datum
  | null
  | bool (b : Bool)
  | int (n : Int)
  | real (x : Binary64)
  | text (s : String)
  | moment (m : Moment)
  | list (items : List Datum)
  | table (members : List (String × Datum))
  | broken (t : Text.Broken)
  | brokenTable (members : List (List Text.Sign × Datum))
deriving Repr

instance : Inhabited Datum := ⟨.null⟩
instance : Coe String Datum := ⟨.text⟩

namespace Day

/-- the numbers of a day -/
def parts (d : Day) : List Nat := [d.year, d.month, d.day]

end Day

namespace Clock

/-- the numbers of a time, without the trailing ones that are zero but for hour and minute -/
def parts (c : Clock) : List Nat :=
  [c.hour, c.minute]
    ++ (if c.microsecond = 0 then (if c.second = 0 then [] else [c.second]) else [c.second, c.microsecond])

end Clock

namespace Moment

def showOffset (minutes : Int) : String :=
  if minutes = 0 then "datetime.timezone.utc"
  else
    let days := Int.fdiv minutes 1440
    let seconds := (minutes - days * 1440) * 60
    let inner := if days = 0 then s!"seconds={seconds}"
      else if seconds = 0 then s!"days={days}" else s!"days={days}, seconds={seconds}"
    "datetime.timezone(datetime.timedelta(" ++ inner ++ "))"

def literal : Moment → String
  | .day d => "datetime.date(" ++ ", ".intercalate (d.parts.map toString) ++ ")"
  | .clock c => "datetime.time(" ++ ", ".intercalate (c.parts.map toString) ++ ")"
  | .both d c offset =>
    let zone := match offset with
      | none => []
      | some m => ["tzinfo=" ++ showOffset m]
    "datetime.datetime(" ++ ", ".intercalate ((d.parts ++ c.parts).map toString ++ zone) ++ ")"

end Moment

namespace Datum

variable {κ : Type} [DecidableEq κ]

/-- the member of a table with a given key -/
def get? (key : κ) (members : List (κ × Datum)) : Option Datum :=
  (members.find? fun m => m.1 = key).map (·.2)

/-- a table with a member set: in its old place when the key is there, else at the end -/
def put (members : List (κ × Datum)) (key : κ) (value : Datum) : List (κ × Datum) :=
  if members.any (·.1 = key) then members.map fun m => if m.1 = key then (key, value) else m
  else members ++ [(key, value)]

def ofSigns (ss : List Text.Sign) : Datum :=
  match h : Text.chars? ss with
  | some cs => .text (String.ofList cs)
  | none => .broken ⟨ss, h⟩

/-- the members of a table, whatever their keys -/
def members : Datum → List (List Text.Sign × Datum)
  | .table ms => ms.map fun m => (Text.signs m.1.toList, m.2)
  | .brokenTable ms => ms
  | _ => []

def member? (key : String) : Datum → Option (Option Datum)
  | .table ms => some (get? key ms)
  | .brokenTable ms => some (get? (Text.signs key.toList) ms)
  | _ => none

/-- a table with a member set; a broken key breaks it -/
def withMember (table : Datum) (key : List Text.Sign) (value : Datum) : Datum :=
  match table, Text.chars? key with
  | .table ms, some cs => .table (put ms (String.ofList cs) value)
  | t, _ => .brokenTable (put t.members key value)

def kindName : Datum → String
  | .null => "NoneType"
  | .bool _ => "bool"
  | .int _ => "int"
  | .real _ => "float"
  | .text _ => "str"
  | .moment (.day _) => "datetime.date"
  | .moment (.clock _) => "datetime.time"
  | .moment (.both _ _ _) => "datetime.datetime"
  | .list _ => "list"
  | .table _ => "dict"
  | .broken _ => "str"
  | .brokenTable _ => "dict"

/-- true of texts, broken or not -/
def isString : Datum → Bool
  | .text _ => true
  | .broken _ => true
  | _ => false

mutual

def literal : Datum → String
  | .null => "None"
  | .bool b => if b then "True" else "False"
  | .int n => Number.showInt n
  | .real x => Number.showReal x
  | .text s => Text.quote s
  | .moment m => m.literal
  | .list items => "[" ++ ", ".intercalate (literals items) ++ "]"
  | .table members => "\x7b" ++ ", ".intercalate (memberLiterals members) ++ "\x7d"
  | .broken t => Text.quoteBroken t.signs
  | .brokenTable members => "\x7b" ++ ", ".intercalate (brokenLiterals members) ++ "\x7d"

def literals : List Datum → List String
  | [] => []
  | d :: ds => literal d :: literals ds

def memberLiterals : List (String × Datum) → List String
  | [] => []
  | (k, d) :: ds => (Text.quote k ++ ": " ++ literal d) :: memberLiterals ds

def brokenLiterals : List (List Text.Sign × Datum) → List String
  | [] => []
  | (k, d) :: ds => (Text.quoteBroken k ++ ": " ++ literal d) :: brokenLiterals ds

end

/-- a datum as it reads in running text, halves by their codes -/
def plain : Datum → String
  | .text s => s
  | .broken t => Text.escapeHalves t.signs
  | d => d.literal

def signs : Datum → List Text.Sign
  | .broken t => t.signs
  | d => Text.signs d.plain.toList

/-- the text of a datum with other characters for its halves -/
def shown (f : Text.Half → Char) : Datum → String
  | .broken t => Text.shown f t.signs
  | d => d.plain

mutual

/-- true when some integer in a datum is too long for decimal text -/
def hasLongInt : Datum → Bool
  | .int n => Number.isTooLong n
  | .list items => anyLong items
  | .table members => memberLong members
  | .brokenTable members => brokenLong members
  | _ => false

def anyLong : List Datum → Bool
  | [] => false
  | d :: ds => hasLongInt d || anyLong ds

def memberLong : List (String × Datum) → Bool
  | [] => false
  | (_, d) :: ds => hasLongInt d || memberLong ds

def brokenLong : List (List Text.Sign × Datum) → Bool
  | [] => false
  | (_, d) :: ds => hasLongInt d || brokenLong ds

end

mutual

/-- true of data without broken texts -/
def isWhole : Datum → Bool
  | .broken _ => false
  | .brokenTable _ => false
  | .list items => allWhole items
  | .table members => membersWhole members
  | _ => true

def allWhole : List Datum → Bool
  | [] => true
  | d :: ds => isWhole d && allWhole ds

def membersWhole : List (String × Datum) → Bool
  | [] => true
  | (_, d) :: ds => isWhole d && membersWhole ds

end

/-- the text of a datum as a datum, if its integers can be written out -/
def written (d : Datum) : Except Number.TooLong Datum :=
  if d.hasLongInt then .error .writing else .ok (ofSigns d.signs)

/-! Texts without halves -/

@[simp] theorem ofSigns_signs (cs : List Char) : ofSigns (Text.signs cs) = .text (String.ofList cs) := by
  unfold ofSigns
  split
  · rename_i ds h
    rw [Text.chars?_signs] at h
    cases h
    rfl
  · rename_i h
    rw [Text.chars?_signs] at h
    cases h

@[simp] theorem withMember_signs (ms : List (String × Datum)) (cs : List Char) (d : Datum) :
    withMember (.table ms) (Text.signs cs) d = .table (put ms (String.ofList cs) d) := by
  simp only [withMember, Text.chars?_signs]

end Datum

end ChangeLint
