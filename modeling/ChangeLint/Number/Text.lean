/-
Numbers as text, both ways.

Integers are read by `readInt`: surrounding blanks, a sign, digits of any script with single underscores between them.
Real numbers are read by `readReal?`, which also knows the words for infinity and nan, and are written by `showReal` with
the fewest digits that read back: positional from 10^-4 up to 10^16, else with an exponent of two digits at least.

Conversions between integers and decimal text are limited to `digitLimit` digits: `tooLong` and `TooLong.message` say so.
-/
import ChangeLint.Number.Shortest
import ChangeLint.Text.Blank
import ChangeLint.Text.Digit
import ChangeLint.Text.Quoted

namespace ChangeLint.Number

/-- the most digits that an integer may have in decimal text -/
def digitLimit : Nat := 4300

/-- an integer with too many digits: read, with their count, or about to be written -/
inductive TooLong
  | reading (count : Nat)
  | writing
deriving DecidableEq, Repr

def TooLong.message : TooLong → String
  | .reading n =>
    s!"Exceeds the limit (4300 digits) for integer string conversion: value has {n} digits; " ++
      "use sys.set_int_max_str_digits() to increase the limit"
  | .writing =>
    "Exceeds the limit (4300 digits) for integer string conversion; " ++
      "use sys.set_int_max_str_digits() to increase the limit"

/-- the number written by a run of digits, if it is not too long -/
def ofDigits (ds : List Char) : Except TooLong Nat :=
  if digitLimit < ds.length then .error (.reading ds.length) else .ok (Text.ofDigits ds)

/-- an integer in decimal text, whatever its length -/
def showInt (n : Int) : String := toString n

/-- true when the decimal text of an integer is too long -/
def isTooLong (n : Int) : Bool := Nat.pow 10 digitLimit ≤ n.natAbs

inductive IntError
  | tooLong (e : TooLong)
  | malformed (text : String)
deriving DecidableEq, Repr

def IntError.message : IntError → String
  | .tooLong e => e.message
  | .malformed s => "invalid literal for int() with base 10: " ++ String.ofList ((Text.quote s).toList.take 200)

/-- the blanks that may stand around a number; of the ASCII ones the information separators are not among them -/
def isMargin (c : Char) : Bool := c = ' ' || ('\t' ≤ c && c ≤ '\r') || (127 ≤ c.toNat && Text.isBlank c)

def readSign : List Char → Bool × List Char
  | '-' :: cs => (true, cs)
  | '+' :: cs => (false, cs)
  | cs => (false, cs)

/-- reads digits with single underscores between them; `after` tells whether a digit stands right before -/
def digitRun (after : Bool) : List Char → List Char × List Char
  | [] => ([], [])
  | c :: cs =>
    if Text.isDigit c then
      let (ds, rest) := digitRun true cs
      (c :: ds, rest)
    else if after && c = '_' then
      match cs with
      | d :: _ => if Text.isDigit d then digitRun false cs else ([], c :: cs)
      | [] => ([], [c])
    else ([], c :: cs)

def readInt (s : String) : Except IntError Int :=
  let cs := s.toList
  let (negative, body) := readSign (cs.dropWhile isMargin)
  let (ds, rest) := digitRun false body
  if ds.isEmpty then .error (.malformed s)
  else
    match ofDigits ds with
    | .error e => .error (.tooLong e)
    | .ok n => if rest.all isMargin then .ok (if negative then -(n : Int) else n) else .error (.malformed s)

/-- the exponent part of a decimal: none when there is none, the rest after it otherwise -/
def readExponent (cs : List Char) : Int × List Char :=
  match cs with
  | c :: body =>
    if c = 'e' || c = 'E' then
      let (negative, digits) := readSign body
      let (ds, rest) := digitRun false digits
      if ds.isEmpty then (0, cs)
      else
        let n : Int := Text.ofDigits ds
        (if negative then -n else n, rest)
    else (0, cs)
  | [] => (0, [])

/-- reads the fraction of a decimal: its digits and the rest; an underscore may not follow the point -/
def readFraction : List Char → List Char × List Char
  | '.' :: cs => digitRun false cs
  | cs => ([], cs)

/-- the words for numbers that are not finite -/
def namedReal? (negative : Bool) (cs : List Char) : Option Binary64 :=
  let word := String.ofList (cs.map Char.toLower)
  if word = "inf" || word = "infinity" then some (.infinite negative)
  else if word = "nan" then some .nan
  else none

/-- reads a decimal number that takes up the whole text -/
def readDecimal? (negative : Bool) (cs : List Char) : Option Binary64 :=
  let (whole, afterWhole) := digitRun false cs
  let (part, afterPart) := readFraction afterWhole
  let (power, rest) := readExponent afterPart
  if (whole.isEmpty && part.isEmpty) || !rest.isEmpty then none
  else some (Binary64.ofDecimal negative (Text.ofDigits (whole ++ part)) (power - part.length))

/-- reads a real number, none when the text is no number -/
def readReal? (s : String) : Option Binary64 :=
  let cs := s.toList
  let (negative, body) := readSign (Text.trim isMargin cs)
  match namedReal? negative body with
  | some x => some x
  | none => readDecimal? negative body

/-- an exponent with its sign and two digits at least -/
def showPower (e : Int) : String :=
  let ds := toString e.natAbs
  (if e < 0 then "-" else "+") ++ (if ds.length < 2 then "0" ++ ds else ds)

/-- digits with the point after the first `point + 1`, and a fraction always -/
def positional (ds : List Char) (point : Int) : String :=
  if point < 0 then "0." ++ String.ofList (List.replicate (-point - 1).toNat '0' ++ ds)
  else
    let n := (point + 1).toNat
    let padded := ds ++ List.replicate (n - ds.length) '0'
    let part := padded.drop n
    String.ofList (padded.take n) ++ "." ++ (if part.isEmpty then "0" else String.ofList part)

/-- digits with a point after the first one and an exponent -/
def scientific (ds : List Char) (point : Int) : String :=
  match ds with
  | [] => ""
  | [d] => d.toString ++ "e" ++ showPower point
  | d :: rest => d.toString ++ "." ++ String.ofList rest ++ "e" ++ showPower point

def showReal : Binary64 → String
  | .nan => "nan"
  | .infinite negative => if negative then "-inf" else "inf"
  | .finite negative 0 _ => if negative then "-0.0" else "0.0"
  | .finite negative (m + 1) e =>
    let d := Binary64.shortest (m + 1) e
    let body := if -4 ≤ d.point ∧ d.point < 16 then positional d.digits d.point else scientific d.digits d.point
    if negative then "-" ++ body else body

end ChangeLint.Number
