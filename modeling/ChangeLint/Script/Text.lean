/-
Texts in a script: what their escapes stand for, and the expressions that formatted ones hold.
-/
import ChangeLint.Script.Token
import ChangeLint.Text.Name

namespace ChangeLint.Script

def hexValue? (c : Char) : Option Nat :=
  if c.isDigit then some (c.toNat - 48)
  else if 'a' ≤ c && c ≤ 'f' then some (c.toNat - 87)
  else if 'A' ≤ c && c ≤ 'F' then some (c.toNat - 55)
  else none

/-- the value of exactly so many hexadecimal digits -/
def hexNumber (count : Nat) (cs : List Char) : Option Nat :=
  if cs.length < count then none
  else (cs.take count).foldlM (fun n c => (hexValue? c).map (n * 16 + ·)) 0

/-- the character of a code point; one that is half of a pair is shown as unknown -/
def charOf (n : Nat) : Char := if 0xD800 ≤ n && n < 0xE000 then '\uFFFD' else Char.ofNat n

/-- what a backslash and one character stand for -/
def simpleEscape? (c : Char) : Option (List Char) :=
  match c with
  | '\n' => some []
  | '\\' => some ['\\']
  | '\'' => some ['\'']
  | '"' => some ['"']
  | 'a' => some ['\x07']
  | 'b' => some ['\x08']
  | 't' => some ['\t']
  | 'n' => some ['\n']
  | 'v' => some ['\x0b']
  | 'f' => some ['\x0c']
  | 'r' => some ['\r']
  | _ => none

def isOctal (c : Char) : Bool := '0' ≤ c && c ≤ '7'

/-- the character that a name in braces stands for, and the rest -/
def namedEscape (cs : List Char) : Option (Char × List Char) :=
  match cs with
  | '\x7b' :: more =>
    let (name, rest) := more.span (· != '\x7d')
    if rest.isEmpty then none else (Text.namedAscii? (String.ofList name)).map (·, rest.drop 1)
  | _ => none

/-- what a text stands for, its escapes replaced; one that stands for nothing is kept, and a broken one is refused. In bytes
there are no code points and no names. -/
def unescape (bytes : Bool) (fuel : Nat) (cs : List Char) : Option (List Char) :=
  match fuel with
  | 0 => none
  | fuel + 1 =>
    match cs with
    | [] => some []
    | ['\\'] => some ['\\']
    | '\\' :: c :: rest =>
      match simpleEscape? c with
      | some found => (unescape bytes fuel rest).map (found ++ ·)
      | none =>
        if isOctal c then
          let digits := (c :: rest).take 3 |>.takeWhile isOctal
          let n := digits.foldl (fun n d => n * 8 + (d.toNat - 48)) 0
          (unescape bytes fuel (rest.drop (digits.length - 1))).map (charOf n :: ·)
        else if c = 'x' then
          (hexNumber 2 rest).bind fun n => (unescape bytes fuel (rest.drop 2)).map (charOf n :: ·)
        else if c = 'u' && !bytes then
          (hexNumber 4 rest).bind fun n => (unescape bytes fuel (rest.drop 4)).map (charOf n :: ·)
        else if c = 'U' && !bytes then
          (hexNumber 8 rest).bind fun n =>
            if n ≤ 0x10FFFF then (unescape bytes fuel (rest.drop 8)).map (charOf n :: ·) else none
        else if c = 'N' && !bytes then
          (namedEscape rest).bind fun (found, rest) => (unescape bytes fuel rest).map (found :: ·)
        else (unescape bytes fuel rest).map ('\\' :: c :: ·)
    | c :: rest => (unescape bytes fuel rest).map (c :: ·)

def plainText (flavor : Flavor) (cs : List Char) : Option (List Char) :=
  if flavor.bytes && cs.any (128 ≤ ·.toNat) then none
  else if flavor.raw then some cs
  else unescape flavor.bytes (cs.length + 1) cs

/-- a quoted part of an expression, its closing quote included, and the rest -/
def quotedPart (quote : Char) (long : Bool) (found : List Char) : List Char → Option (List Char × List Char)
  | [] => none
  | c :: cs =>
    if c = quote then
      if long then
        match cs with
        | a :: b :: rest =>
          if a = quote && b = quote then some (b :: a :: c :: found, rest)
          else quotedPart quote long (c :: found) (a :: b :: rest)
        | rest => quotedPart quote long (c :: found) rest
      else some (c :: found, cs)
    else quotedPart quote long (c :: found) cs

def closing : Char → Char
  | '(' => ')'
  | '[' => ']'
  | _ => '\x7d'

/-- the expression at the beginning of a field, backwards, and the rest from the character that ends it; there are no
backslashes and no comments in it -/
def fieldExpression (fuel : Nat) (brackets : List Char) (found : List Char) (cs : List Char) :
    Option (List Char × List Char) :=
  match fuel with
  | 0 => none
  | fuel + 1 =>
    match cs with
    | [] => none
    | c :: rest =>
      if c = '\\' then none
      else if c = '\'' || c = '"' then
        let body := match rest with
          | a :: b :: more =>
            if a = c && b = c then quotedPart c true [b, a, c] more else quotedPart c false [c] rest
          | _ => quotedPart c false [c] rest
        body.bind fun (part, rest) => if part.contains '\\' then none else
          fieldExpression fuel brackets (part ++ found) rest
      else if c = '(' || c = '[' || c = '\x7b' then fieldExpression fuel (c :: brackets) (c :: found) rest
      else if c = '#' then none
      else if brackets.isEmpty && (c = '!' || c = ':' || c = '\x7d' || c = '=' || c = '<' || c = '>') then
        match rest with
        | '=' :: more =>
          if c = '!' || c = '=' || c = '<' || c = '>' then fieldExpression fuel brackets ('=' :: c :: found) more
          else some (found, cs)
        | _ => if c = '<' || c = '>' then fieldExpression fuel brackets (c :: found) rest else some (found, cs)
      else if c = ')' || c = ']' || c = '\x7d' then
        match brackets with
        | b :: more => if closing b = c then fieldExpression fuel more (c :: found) rest else none
        | [] => none
      else fieldExpression fuel brackets (c :: found) rest

/-- the rest after an equals sign that asks for the text of an expression, with the blanks after it -/
def afterEquals : List Char → List Char
  | '=' :: rest => rest.dropWhile fun c => c = ' ' || ('\t' ≤ c && c ≤ '\r')
  | cs => cs

/-- the rest after a conversion, of which there are three -/
def afterConversion : List Char → Option (List Char)
  | '!' :: c :: rest =>
    if (c = 's' || c = 'r' || c = 'a') && (rest.head? = some ':' || rest.head? = some '\x7d') then some rest else none
  | ['!'] => none
  | cs => some cs

/-- a run of plain text up to a brace, backwards, and the rest; an escape by name may hold braces -/
def plainRun (raw named : Bool) (found : List Char) : List Char → List Char × List Char
  | [] => (found, [])
  | c :: rest =>
    if named then plainRun raw (c != '\x7d') (c :: found) rest
    else if c = '\x7b' || c = '\x7d' then (found, c :: rest)
    else if c = '\\' && !raw then
      match rest with
      | 'N' :: '\x7b' :: more => plainRun raw true ('\x7b' :: 'N' :: '\\' :: found) more
      | d :: more =>
        if d = '\x7b' || d = '\x7d' then ('\\' :: found, d :: more) else plainRun raw false (d :: '\\' :: found) more
      | [] => ('\\' :: found, [])
    else plainRun raw false (c :: found) rest

/-- the expressions of a formatted text, and the rest; a field's specification is formatted again, at level 1, where braces
are not doubled and a closing one ends it -/
def fields (raw : Bool) (fuel level : Nat) (cs : List Char) : Option (List (List Char) × List Char) :=
  match fuel with
  | 0 => none
  | fuel + 1 =>
    let (found, rest) := plainRun raw false [] cs
    match plainText ⟨raw, false, true⟩ found.reverse with
    | none => none
    | some _ =>
      match rest with
      | [] => if level = 0 then some ([], []) else none
      | c :: after =>
        if level = 0 && after.head? = some c then fields raw fuel level (after.drop 1)
        else if c = '\x7d' then (if level = 0 then none else some ([], rest))
        else if 2 ≤ level then none
        else do
          let (expression, rest) ← fieldExpression (after.length + 1) [] [] after
          if expression.all fun c => c = ' ' || c = '\t' || c = '\n' || c = '\x0c' then none
          let rest ← afterConversion (afterEquals rest)
          let (inner, rest) ← match rest with
            | ':' :: rest => fields raw fuel (level + 1) rest
            | rest => some ([], rest)
          match rest with
          | '\x7d' :: rest =>
            let (more, rest) ← fields raw fuel level rest
            some (expression.reverse :: inner ++ more, rest)
          | _ => none

/-- the expressions of a formatted text -/
def textFields (flavor : Flavor) (body : List Char) : Option (List (List Char)) :=
  (fields flavor.raw (body.length + 2) 0 body).map (·.1)

end ChangeLint.Script
