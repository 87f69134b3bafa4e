/-
Numbers in a script: integers in four bases, fractions with exponents, and imaginary ones. Digits may have single
underscores between them. A number may not run into a word, but for a few keywords.
-/
import ChangeLint.Number.Text

namespace ChangeLint.Script

/-- true of the characters that may be part of a name, as far as the lexer looks -/
def isNameChar (c : Char) : Bool := c.isAlphanum || c = '_' || 128 ≤ c.toNat

/-- the words that may follow a number without a blank -/
def numberFollowers : List String := ["and", "else", "for", "if", "in", "is", "or", "not"]

/-- true when a number may end before a rest -/
def endsNumber (rest : List Char) : Bool :=
  (match rest with
    | [] => true
    | c :: _ => !isNameChar c) || numberFollowers.any fun w => w.toList.isPrefixOf rest

/-- the rest after digits with single underscores between them, and the number of digits; none for an underscore with no
digit after it -/
def digitTail (p : Char → Bool) (count : Nat) : List Char → Option (Nat × List Char)
  | [] => some (count, [])
  | '_' :: cs =>
    match cs with
    | d :: rest => if p d then digitTail p (count + 1) rest else none
    | [] => none
  | c :: cs => if p c then digitTail p (count + 1) cs else some (count, c :: cs)

/-- the digits of a base, after its mark; an underscore may come first -/
def basedNumber (p : Char → Bool) (cs : List Char) : Option (List Char) := do
  let digits := match cs with
    | '_' :: rest => rest
    | cs => cs
  match digits with
  | d :: _ => if p d then pure () else none
  | [] => none
  let (_, rest) ← digitTail p 0 digits
  if endsNumber rest && !(rest.head?.any Char.isDigit) then pure rest else none

/-- what ends a number: an imaginary unit, or nothing -/
def numberEnd (rest : List Char) : Option (Bool × List Char) :=
  match rest with
  | c :: cs =>
    if c = 'j' || c = 'J' then (if endsNumber cs then some (true, cs) else none)
    else if endsNumber rest then some (false, rest) else none
  | [] => some (false, [])

def exponentEnd (rest : List Char) : Option (Bool × List Char) :=
  match rest with
  | c :: cs =>
    if c = 'e' || c = 'E' then
      match cs with
      | d :: more =>
        if d = '+' || d = '-' then
          match more with
          | x :: _ => if x.isDigit then (digitTail Char.isDigit 0 more).bind fun r => numberEnd r.2 else none
          | [] => none
        else if d.isDigit then (digitTail Char.isDigit 0 cs).bind fun r => numberEnd r.2
        else if endsNumber rest then some (false, rest) else none
      | [] => if endsNumber rest then some (false, rest) else none
    else numberEnd rest
  | [] => numberEnd []

/-- digits after a point, if there are any, and what ends the number -/
def fractionEnd (cs : List Char) : Option (Bool × List Char) :=
  if cs.head?.any Char.isDigit then (digitTail Char.isDigit 0 cs).bind fun r => exponentEnd r.2
  else exponentEnd cs

/-- a decimal number from its first digit on; one with leading zeros is no integer, nor is one with too many digits -/
def decimal (cs : List Char) : Option (Bool × List Char) := do
  let (count, rest) ← digitTail Char.isDigit 0 cs
  match rest with
  | '.' :: more => fractionEnd more
  | _ =>
    let (imaginary, after) ← exponentEnd rest
    let isInteger := after.length = rest.length
    let leadingZero := cs.head? == some '0' && (cs.take (cs.length - rest.length)).any fun c => c != '0' && c != '_'
    if isInteger && (leadingZero || Number.digitLimit < count) then none else pure (imaginary, after)

/-- a number from its first digit on: whether it is imaginary, and the rest -/
def number (cs : List Char) : Option (Bool × List Char) :=
  match cs with
  | '0' :: c :: rest =>
    if c = 'x' || c = 'X' then
      (basedNumber (fun d => d.isDigit || ('a' ≤ d && d ≤ 'f') || ('A' ≤ d && d ≤ 'F')) rest).map (false, ·)
    else if c = 'o' || c = 'O' then (basedNumber (fun d => '0' ≤ d && d ≤ '7') rest).map (false, ·)
    else if c = 'b' || c = 'B' then (basedNumber (fun d => d = '0' || d = '1') rest).map (false, ·)
    else decimal cs
  | _ => decimal cs

end ChangeLint.Script
