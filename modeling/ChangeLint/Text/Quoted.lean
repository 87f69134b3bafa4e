/-
Quoted texts for messages. A text stands between single quotes, or between double quotes when it holds a single quote
and no double quote. The quote in use and the backslash get a backslash in front; tab, line feed and carriage return
have one-letter escapes; every other character that is not printable is written by its code point.
-/
import ChangeLint.Text.Printable

namespace ChangeLint.Text

/-- a lower-case hexadecimal digit -/
def hexDigit (n : Nat) : Char := if n < 10 then Char.ofNat (48 + n) else Char.ofNat (87 + n)

/-- the last `width` hexadecimal digits of a number -/
def hexPadded : Nat → Nat → List Char
  | 0, _ => []
  | width + 1, n => hexPadded width (n / 16) ++ [hexDigit (n % 16)]

/-- a character that is not printable, by its code point -/
def escapeCode (c : Char) : List Char :=
  let n := c.toNat
  if n < 0x100 then '\\' :: 'x' :: hexPadded 2 n
  else if n < 0x10000 then '\\' :: 'u' :: hexPadded 4 n
  else '\\' :: 'U' :: hexPadded 8 n

def escapeQuoted (quote c : Char) : List Char :=
  if c = quote || c = '\\' then ['\\', c]
  else if c = '\t' then ['\\', 't']
  else if c = '\n' then ['\\', 'n']
  else if c = '\r' then ['\\', 'r']
  else if isPrintable c then [c]
  else escapeCode c

def quoteOf (cs : List Char) : Char :=
  if cs.contains '\'' && !cs.contains '"' then '"' else '\''

def quoted (cs : List Char) : List Char :=
  let q := quoteOf cs
  q :: cs.flatMap (escapeQuoted q) ++ [q]

def quote (s : String) : String := String.ofList (quoted s.toList)

end ChangeLint.Text
