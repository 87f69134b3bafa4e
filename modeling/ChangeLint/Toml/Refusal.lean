/-
Why a text is no TOML document. A refusal names a reason and how much of the text is left at its place, from which
`Refusal.message` tells line and column.
-/
import ChangeLint.Number.Text
import ChangeLint.Text.Quoted

namespace ChangeLint.Toml

abbrev Key := List String

def showKey : Key → String
  | [k] => "(" ++ Text.quote k ++ ",)"
  | ks => "(" ++ ", ".intercalate (ks.map Text.quote) ++ ")"

inductive Reason
  | statement
  | lineEnd
  | equalsSign
  | keyStart
  | tableEnd
  | arrayEnd
  | declaredTwice (key : Key)
  | immutable (key : Key)
  | redefined (key : Key)
  | overwrite
  | duplicate (key : String)
  | unclosedArray
  | unclosedTable
  | unterminated
  | expected (text : String)
  | invalidCharacter (c : Char)
  | illegalCharacter (c : Char)
  | escape
  | hexDigits
  | notScalar
  | moment
  | value
deriving DecidableEq, Repr

def Reason.message : Reason → String
  | .statement => "Invalid statement"
  | .lineEnd => "Expected newline or end of document after a statement"
  | .equalsSign => "Expected '=' after a key in a key/value pair"
  | .keyStart => "Invalid initial character for a key part"
  | .tableEnd => "Expected ']' at the end of a table declaration"
  | .arrayEnd => "Expected ']]' at the end of an array declaration"
  | .declaredTwice k => "Cannot declare " ++ showKey k ++ " twice"
  | .immutable k => "Cannot mutate immutable namespace " ++ showKey k
  | .redefined k => "Cannot redefine namespace " ++ showKey k
  | .overwrite => "Cannot overwrite a value"
  | .duplicate k => "Duplicate inline table key " ++ Text.quote k
  | .unclosedArray => "Unclosed array"
  | .unclosedTable => "Unclosed inline table"
  | .unterminated => "Unterminated string"
  | .expected t => "Expected " ++ Text.quote t
  | .invalidCharacter c => "Found invalid character " ++ Text.quote c.toString
  | .illegalCharacter c => "Illegal character " ++ Text.quote c.toString
  | .escape => "Unescaped '\\' in a string"
  | .hexDigits => "Invalid hex value"
  | .notScalar => "Escaped character is not a Unicode scalar value"
  | .moment => "Invalid date or datetime"
  | .value => "Invalid value"

/-- why a text is no document: it is malformed where `left` characters are left, an integer in it is too long, or it is nested
too deep -/
inductive Refusal
  | malformed (reason : Reason) (left : Nat)
  | tooLong (e : Number.TooLong)
  | tooDeep (message : String)
deriving DecidableEq, Repr

/-- a place in words -/
def showPlace (text : List Char) (left : Nat) : String :=
  if left = 0 then "end of document"
  else
    let before := text.take (text.length - left)
    let row := before.count '\n' + 1
    let column := (before.reverse.takeWhile (· != '\n')).length + 1
    s!"line {row}, column {column}"

def Refusal.message (text : List Char) : Refusal → String
  | .malformed r left => r.message ++ " (at " ++ showPlace text left ++ ")"
  | .tooLong e => e.message
  | .tooDeep m => m

/-- what reading a part of a document gives: its value and the rest, or a refusal -/
abbrev Result (α : Type) := Except Refusal (α × List Char)

/-- refuses a document at the rest that is left -/
def refuse {α : Type} (r : Reason) (rest : List Char) : Except Refusal α := .error (.malformed r rest.length)

end ChangeLint.Toml
