/-
Writing JSON. `compact` puts everything on one line with a blank after each comma and colon; `indented` gives each item
and member a line of its own, two blanks deeper than what holds it. Only quotes, backslashes and control characters are
escaped. A moment, which JSON does not have, is written as its text.

What is written of broken texts depends on the characters `half` that stand for halves; `text` settles it. It also refuses
integers that are too long, and what the stack is too small for.
-/
import ChangeLint.Failure
import ChangeLint.Interpreter

namespace ChangeLint.Json

def escapeChar (c : Char) : List Char :=
  if c = '"' then ['\\', '"']
  else if c = '\\' then ['\\', '\\']
  else if c = '\n' then ['\\', 'n']
  else if c = '\r' then ['\\', 'r']
  else if c = '\t' then ['\\', 't']
  else if c = '\x0c' then ['\\', 'f']
  else if c = '\x08' then ['\\', 'b']
  else if c.toNat < 0x20 then '\\' :: 'u' :: Text.hexPadded 4 c.toNat
  else [c]

def stringText (s : String) : String := String.ofList ('"' :: s.toList.flatMap escapeChar ++ ['"'])

/-- a number that need not be finite -/
def realText : Binary64 → String
  | .nan => "NaN"
  | .infinite negative => if negative then "-Infinity" else "Infinity"
  | x => Number.showReal x

variable (half : Text.Half → Char)

def scalarText : Datum → String
  | .null => "null"
  | .bool b => if b then "true" else "false"
  | .int n => Number.showInt n
  | .real x => realText x
  | .text s => stringText s
  | .moment m => stringText m.literal
  | .list _ => "[]"
  | .table _ | .brokenTable _ => "\x7b\x7d"
  | .broken t => stringText (Text.shown half t.signs)

mutual

def compact : Datum → String
  | .list items => "[" ++ ", ".intercalate (compactItems items) ++ "]"
  | .table members => "\x7b" ++ ", ".intercalate (compactMembers members) ++ "\x7d"
  | .brokenTable members => "\x7b" ++ ", ".intercalate (compactBroken members) ++ "\x7d"
  | d => scalarText half d

def compactItems : List Datum → List String
  | [] => []
  | d :: ds => compact d :: compactItems ds

def compactMembers : List (String × Datum) → List String
  | [] => []
  | (k, d) :: ds => (stringText k ++ ": " ++ compact d) :: compactMembers ds

def compactBroken : List (List Text.Sign × Datum) → List String
  | [] => []
  | (k, d) :: ds => (stringText (Text.shown half k) ++ ": " ++ compact d) :: compactBroken ds

end

/-- a line break and the blanks of a depth -/
def newline (depth : Nat) : String := "\n" ++ String.ofList (List.replicate (2 * depth) ' ')

/-- written items between brackets, each on a line of its own -/
def block (opening closing : String) (depth : Nat) (items : List String) : String :=
  if items.isEmpty then opening ++ closing
  else opening ++ newline (depth + 1) ++ ("," ++ newline (depth + 1)).intercalate items ++ newline depth ++ closing

mutual

/-- a datum over several lines, its first line standing at a depth -/
def indentedAt (depth : Nat) : Datum → String
  | .list items => block "[" "]" depth (indentedItems (depth + 1) items)
  | .table members => block "\x7b" "\x7d" depth (indentedMembers (depth + 1) members)
  | .brokenTable members => block "\x7b" "\x7d" depth (indentedBroken (depth + 1) members)
  | d => scalarText half d

def indentedItems (depth : Nat) : List Datum → List String
  | [] => []
  | d :: ds => indentedAt depth d :: indentedItems depth ds

def indentedMembers (depth : Nat) : List (String × Datum) → List String
  | [] => []
  | (k, d) :: ds => (stringText k ++ ": " ++ indentedAt depth d) :: indentedMembers depth ds

def indentedBroken (depth : Nat) : List (List Text.Sign × Datum) → List String
  | [] => []
  | (k, d) :: ds => (stringText (Text.shown half k) ++ ": " ++ indentedAt depth d) :: indentedBroken depth ds

end

/-- a datum over several lines -/
def indented (d : Datum) : String := indentedAt half 0 d

/-- what is written of a datum, if it can be -/
def text [Interpreter] (write : (Text.Half → Char) → Datum → String) (d : Datum) : Except Failure String :=
  match Interpreter.unwritten? .json d with
  | some m => .error (.exhausted m)
  | none =>
    if d.hasLongInt then .error (.tooLong .writing)
    else Failure.settled fun half => .ok (write half d)

end ChangeLint.Json
