/-
Paths in C-style quotes. Between double quotes a backslash begins an escape: three octal digits stand for one byte,
certain letters for control characters, and any other character for itself. The bytes so written are read as UTF-8.

`unquote` takes the quotes off; a text that does not both begin and end with a quote stands for itself.
-/
import ChangeLint.Text.Utf8

namespace ChangeLint.Diff

def letterByte? : Char → Option UInt8
  | 'a' => some 7
  | 'b' => some 8
  | 't' => some 9
  | 'n' => some 10
  | 'v' => some 11
  | 'f' => some 12
  | 'r' => some 13
  | '"' => some 34
  | '\\' => some 92
  | _ => none

def octalValue? (c : Char) : Option Nat := if '0' ≤ c ∧ c ≤ '7' then some (c.toNat - 48) else none

/-- the byte of three octal digits, cut to eight bits -/
def octalByte? (a b c : Char) : Option UInt8 :=
  match octalValue? a, octalValue? b, octalValue? c with
  | some a, some b, some c => some (UInt8.ofNat ((a * 8 + b) * 8 + c))
  | _, _, _ => none

/-- the bytes of a character that follows a backslash and begins no octal escape -/
def escapedBytes (c : Char) : List UInt8 :=
  match letterByte? c with
  | some b => [b]
  | none => String.utf8EncodeChar c

/-- the bytes written between the quotes; a backslash at the end stands for itself -/
def quotedBytes : List Char → List UInt8
  | '\\' :: a :: b :: c :: rest =>
    match octalByte? a b c with
    | some x => x :: quotedBytes rest
    | none => escapedBytes a ++ quotedBytes (b :: c :: rest)
  | '\\' :: a :: rest => escapedBytes a ++ quotedBytes rest
  | c :: rest => String.utf8EncodeChar c ++ quotedBytes rest
  | [] => []

def unquoted (cs : List Char) : List Char :=
  match cs with
  | '"' :: rest =>
    if rest.getLast? = some '"' then Text.Utf8.decodeLossy (quotedBytes rest.dropLast) else cs
  | _ => cs

def unquote (s : String) : String := String.ofList (unquoted s.toList)

/-- the quoted text at the front, with its quotes, and the rest; `cs` follows the opening quote -/
def quotedToken (cs : List Char) : List Char × List Char :=
  match cs with
  | [] => ([], [])
  | '\\' :: c :: rest =>
    let (token, after) := quotedToken rest
    ('\\' :: c :: token, after)
  | '"' :: rest => (['"'], rest)
  | c :: rest =>
    let (token, after) := quotedToken rest
    (c :: token, after)

end ChangeLint.Diff
