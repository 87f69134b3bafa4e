/-
Reading JSON. The reader admits the three words NaN, Infinity and -Infinity, keeps integers exact, and of members with
one key keeps the last value in the place of the first. A refusal names what was expected and the rest of the text from
the place on; `Error.message` turns that into line, column and offset.

`read` is the entry. The recursion is bounded by twice the length of the text: every nested value takes a character, and
a step down into it.
-/
import ChangeLint.Datum

namespace ChangeLint.Json

inductive Problem
  | value
  | name
  | colon
  | comma
  | extra
  | unterminated
  | control
  | escape
  | codeEscape
  | byteOrderMark
  | tooLong (e : Number.TooLong)
deriving DecidableEq, Repr

def Problem.message : Problem → String
  | .value => "Expecting value"
  | .name => "Expecting property name enclosed in double quotes"
  | .colon => "Expecting ':' delimiter"
  | .comma => "Expecting ',' delimiter"
  | .extra => "Extra data"
  | .unterminated => "Unterminated string starting at"
  | .control => "Invalid control character at"
  | .escape => "Invalid \\escape"
  | .codeEscape => "Invalid \\uXXXX escape"
  | .byteOrderMark => "Unexpected UTF-8 BOM (decode using utf-8-sig)"
  | .tooLong e => e.message

/-- a refusal: what is wrong and the text from there on -/
structure Error where
  problem : Problem
  rest : List Char
deriving DecidableEq, Repr

/-- the refusal of a text in words, with the place counted in lines, columns and characters -/
def Error.message (text : List Char) (e : Error) : String :=
  match e.problem with
  | .tooLong t => t.message
  | p =>
    let before := text.take (text.length - e.rest.length)
    let line := before.count '\n' + 1
    let column := (before.reverse.takeWhile (· ≠ '\n')).length + 1
    p.message ++ s!": line {line} column {column} (char {before.length})"

def isSpace (c : Char) : Bool := c = ' ' || c = '\t' || c = '\n' || c = '\r'

/-- a text without its leading blanks -/
def skip (cs : List Char) : List Char := cs.dropWhile isSpace

def hexValue? (c : Char) : Option Nat :=
  if '0' ≤ c ∧ c ≤ '9' then some (c.toNat - 48)
  else if 'a' ≤ c ∧ c ≤ 'f' then some (c.toNat - 87)
  else if 'A' ≤ c ∧ c ≤ 'F' then some (c.toNat - 55)
  else none

/-- the number written by four hexadecimal digits -/
def hex4? : List Char → Option (Nat × List Char)
  | a :: b :: c :: d :: rest =>
    match hexValue? a, hexValue? b, hexValue? c, hexValue? d with
    | some a, some b, some c, some d => some (((a * 16 + b) * 16 + c) * 16 + d, rest)
    | _, _, _, _ => none
  | _ => none

def simpleEscape? : Char → Option Char
  | '"' => some '"'
  | '\\' => some '\\'
  | '/' => some '/'
  | 'b' => some '\x08'
  | 'f' => some '\x0c'
  | 'n' => some '\n'
  | 'r' => some '\r'
  | 't' => some '\t'
  | _ => none

/-- the second half of a surrogate pair, when one follows and does not end the text -/
def lowHalf? (rest : List Char) : Except Error (Option (Nat × List Char)) :=
  match rest with
  | '\\' :: 'u' :: digits =>
    if rest.length ≤ 6 then .ok none
    else match hex4? digits with
      | none => .error ⟨.codeEscape, 'u' :: digits⟩
      | some (low, after) => .ok (if 0xdc00 ≤ low ∧ low ≤ 0xdfff then some (low, after) else none)
  | _ => .ok none

/-- what a code escape names whose digits follow; a pair of halves is one character, and a half may stand alone -/
def codeEscape (digits : List Char) : Except Error (Text.Sign × List Char) :=
  match hex4? digits with
  | none => .error ⟨.codeEscape, 'u' :: digits⟩
  | some (n, rest) =>
    if rest.isEmpty then .error ⟨.codeEscape, 'u' :: digits⟩
    else if 0xd800 ≤ n ∧ n ≤ 0xdbff then
      match lowHalf? rest with
      | .error e => .error e
      | .ok (some (low, after)) => .ok (.ofCode (0x10000 + (n - 0xd800) * 0x400 + (low - 0xdc00)), after)
      | .ok none => .ok (.ofCode n, rest)
    else .ok (.ofCode n, rest)

/-- the text up to the closing quote; `opening` is the text from the opening quote on -/
def stringBody (opening : List Char) : Nat → List Char → Except Error (List Text.Sign × List Char)
  | 0, _ => .error ⟨.unterminated, opening⟩
  | _ + 1, [] => .error ⟨.unterminated, opening⟩
  | fuel + 1, c :: cs =>
    if c = '"' then .ok ([], cs)
    else if c = '\\' then
      match cs with
      | [] => .error ⟨.unterminated, opening⟩
      | 'u' :: digits =>
        match codeEscape digits with
        | .error e => .error e
        | .ok (d, rest) => (stringBody opening fuel rest).map fun r => (d :: r.1, r.2)
      | e :: rest =>
        match simpleEscape? e with
        | none => .error ⟨.escape, c :: cs⟩
        | some d => (stringBody opening fuel rest).map fun r => (.char d :: r.1, r.2)
    else if c.toNat < 0x20 then .error ⟨.control, c :: cs⟩
    else (stringBody opening fuel cs).map fun r => (.char c :: r.1, r.2)

def digitsOf (cs : List Char) : List Char × List Char := cs.span fun c => '0' ≤ c && c ≤ '9'

/-- the integer part of a number: a zero alone or digits that do not begin with one -/
def wholePart (cs : List Char) : Option (List Char × List Char) :=
  match cs with
  | '0' :: rest => some (['0'], rest)
  | _ => match digitsOf cs with
    | ([], _) => none
    | (ds, rest) => some (ds, rest)

/-- the fraction of a number, if a digit follows the point -/
def fractionPart (cs : List Char) : Option (List Char × List Char) :=
  match cs with
  | '.' :: rest => match digitsOf rest with
    | ([], _) => none
    | (ds, after) => some (ds, after)
  | _ => none

/-- the exponent of a number, if it has a digit -/
def exponentPart (cs : List Char) : Option (Int × List Char) :=
  match cs with
  | c :: rest =>
    if c = 'e' || c = 'E' then
      let (negative, digits) := Number.readSign rest
      match digitsOf digits with
      | ([], _) => none
      | (ds, after) => some (if negative then -(Text.ofDigits ds : Int) else Text.ofDigits ds, after)
    else none
  | [] => none

/-- a number; `start` is the text from its sign on -/
def number (start : List Char) (negative : Bool) (cs : List Char) : Except Error (Datum × List Char) :=
  match wholePart cs with
  | none => .error ⟨.value, start⟩
  | some (whole, afterWhole) =>
    let fraction := fractionPart afterWhole
    let (part, afterPart) := fraction.getD ([], afterWhole)
    let power := exponentPart afterPart
    let (e, rest) := power.getD (0, afterPart)
    if fraction.isNone && power.isNone then
      match Number.ofDigits whole with
      | .error e => .error ⟨.tooLong e, start⟩
      | .ok n => .ok (.int (if negative then -(n : Int) else n), rest)
    else .ok (.real (Binary64.ofDecimal negative (Text.ofDigits (whole ++ part)) (e - part.length)), rest)

def words : List (String × Datum) :=
  [("null", .null), ("true", .bool true), ("false", .bool false), ("NaN", .real .nan),
   ("Infinity", .real (.infinite false)), ("-Infinity", .real (.infinite true))]

/-- a word or a number -/
def scalar (cs : List Char) : Except Error (Datum × List Char) :=
  match words.find? fun w => w.1.toList.isPrefixOf cs with
  | some (w, d) => .ok (d, cs.drop w.length)
  | none => match cs with
    | '-' :: rest => number cs true rest
    | _ => number cs false cs

mutual

def value : Nat → List Char → Except Error (Datum × List Char)
  | 0, cs => .error ⟨.value, cs⟩
  | fuel + 1, cs =>
    match cs with
    | '"' :: rest => (stringBody cs (rest.length + 1) rest).map fun r => (.ofSigns r.1, r.2)
    | '\x5b' :: rest =>
      match skip rest with
      | '\x5d' :: after => .ok (.list [], after)
      | inner => (items fuel inner).map fun r => (.list r.1, r.2)
    | '\x7b' :: rest =>
      match skip rest with
      | '\x7d' :: after => .ok (.table [], after)
      | inner => members fuel (.table []) inner
    | _ => scalar cs

/-- the items of a list, up to its closing bracket -/
def items : Nat → List Char → Except Error (List Datum × List Char)
  | 0, cs => .error ⟨.value, cs⟩
  | fuel + 1, cs => do
    let (d, rest) ← value fuel cs
    match skip rest with
    | '\x5d' :: after => .ok ([d], after)
    | ',' :: after => (items fuel (skip after)).map fun r => (d :: r.1, r.2)
    | other => .error ⟨.comma, other⟩

/-- a table up to its closing brace, its members added to those read before -/
def members : Nat → Datum → List Char → Except Error (Datum × List Char)
  | 0, _, cs => .error ⟨.name, cs⟩
  | fuel + 1, before, cs =>
    match cs with
    | '"' :: keyText => do
      let (key, afterKey) ← stringBody cs (keyText.length + 1) keyText
      match skip afterKey with
      | ':' :: afterColon => do
        let (d, rest) ← value fuel (skip afterColon)
        let now := before.withMember key d
        match skip rest with
        | '\x7d' :: after => .ok (now, after)
        | ',' :: after => members fuel now (skip after)
        | other => .error ⟨.comma, other⟩
      | other => .error ⟨.colon, other⟩
    | _ => .error ⟨.name, cs⟩

end

/-- the value that a whole text writes -/
def read (cs : List Char) : Except Error Datum :=
  if cs.head? = some '\ufeff' then .error ⟨.byteOrderMark, cs⟩
  else do
    let (d, rest) ← value (2 * cs.length + 2) (skip cs)
    match skip rest with
    | [] => .ok d
    | other => .error ⟨.extra, other⟩

end ChangeLint.Json
