/-
Shapes of settings: what kind of value a setting takes, whether a datum has a shape, and how a text from the environment is
read as a value of a shape.
-/
import ChangeLint.Datum
import ChangeLint.Text.Case
import ChangeLint.Text.Split

namespace ChangeLint.Settings

/-- the kind of value that a setting takes; nothing is asked of an optional one or of one of any kind -/
inductive Shape
  | text
  | choice
  | integer
  | number
  | truth
  | texts
  | any
  | optional (s : Shape)
deriving DecidableEq, Repr

def isText : Datum → Bool
  | .text _ => true
  | _ => false

def Shape.fits : Shape → Datum → Bool
  | .text, d => isText d
  | .choice, d => isText d
  | .integer, .int _ => true
  | .integer, _ => false
  | .number, .int _ => true
  | .number, .real _ => true
  | .number, _ => false
  | .truth, .bool _ => true
  | .truth, _ => false
  | .texts, .list ds => ds.all isText
  | .texts, _ => false
  | .any, _ => true
  | .optional _, _ => true

def Shape.demand : Shape → String
  | .text => "expected a string"
  | .choice => "expected a string"
  | .integer => "expected an integer"
  | .number => "expected a number"
  | .truth => "expected true or false"
  | .texts => "expected a list of strings"
  | .any => ""
  | .optional _ => ""

/-- why a datum has not the shape that it should have, none when it has -/
def Shape.problem? (s : Shape) (d : Datum) : Option String := if s.fits d then none else some s.demand

/-- why a text cannot be read as a value of a shape -/
inductive ParseError
  | truth (text : String)
  | integer (e : Number.IntError)
  | number (text : String)
deriving Repr

def ParseError.message : ParseError → String
  | .truth s => "expected true/false, got '" ++ s ++ "'"
  | .integer e => e.message
  | .number s => "could not convert string to float: " ++ Text.quote s

/-- the items of a list in one text: between commas, without blanks around them, empty ones left out -/
def splitItems (s : String) : List String :=
  ((Text.pieces ',' s.toList).map fun cs => Text.stripped (String.ofList cs)).filter (· != "")

/-- the truth value that a word stands for, upper and lower case being the same -/
def truth? (s : String) : Option Bool :=
  let word := Text.lower s
  if ["true", "1", "yes", "on"].contains word then some true
  else if ["false", "0", "no", "off"].contains word then some false
  else none

/-- reads a text as a value of a shape; there are none of any kind -/
def Shape.parse (s : String) : Shape → Except ParseError (Option Datum)
  | .text => .ok (some (.text s))
  | .choice => .ok (some (.text s))
  | .integer => match Number.readInt s with
    | .ok n => .ok (some (.int n))
    | .error e => .error (.integer e)
  | .number => match Number.readReal? s with
    | some x => .ok (some (.real x))
    | none => .error (.number s)
  | .truth => match truth? s with
    | some b => .ok (some (.bool b))
    | none => .error (.truth s)
  | .texts => .ok (some (.list ((splitItems s).map .text)))
  | .any => .ok none
  | .optional shape => shape.parse s

end ChangeLint.Settings
