/-
Words of a command line, as a shell splits them. Blanks part words; between single quotes every character stands for
itself, between double quotes all but the backslash do; a backslash takes the next character as it is, but between double
quotes it stays unless a double quote or another backslash follows.
-/
namespace ChangeLint.Command

/-- why a command line cannot be split -/
inductive WordsError
  | unclosedQuote
  | danglingEscape
deriving DecidableEq, Repr

def WordsError.message : WordsError → String
  | .unclosedQuote => "No closing quotation"
  | .danglingEscape => "No escaped character"

def isBlank (c : Char) : Bool := c = ' ' || c = '\t' || c = '\r' || c = '\n'

/-- where splitting stands: outside of quotes, between quotes, or after a backslash outside or between double quotes -/
inductive Mode
  | bare
  | quoted (q : Char)
  | escaped
  | escapedInQuotes
deriving DecidableEq, Repr

/-- a finished word before others; no word that has not begun -/
def finish (word : Option (List Char)) (rest : List (List Char)) : List (List Char) :=
  match word with
  | none => rest
  | some w => w.reverse :: rest

def extend (word : Option (List Char)) (c : Char) : Option (List Char) := some (c :: word.getD [])

/-- splits from a mode on; `word` is the word that has begun, backwards -/
def split (word : Option (List Char)) : Mode → List Char → Except WordsError (List (List Char))
  | .bare, [] => .ok (finish word [])
  | .quoted _, [] => .error .unclosedQuote
  | .escaped, [] => .error .danglingEscape
  | .escapedInQuotes, [] => .error .danglingEscape
  | .bare, c :: cs =>
    if isBlank c then (split none .bare cs).map (finish word)
    else if c = '\\' then split word .escaped cs
    else if c = '\'' || c = '"' then split (some (word.getD [])) (.quoted c) cs
    else split (extend word c) .bare cs
  | .quoted q, c :: cs =>
    if c = q then split word .bare cs
    else if c = '\\' && q = '"' then split word .escapedInQuotes cs
    else split (extend word c) (.quoted q) cs
  | .escaped, c :: cs => split (extend word c) .bare cs
  | .escapedInQuotes, c :: cs =>
    let kept := if c = '\\' || c = '"' then word else extend word '\\'
    split (extend kept c) (.quoted '"') cs

def words (s : String) : Except WordsError (List String) :=
  (split none .bare s.toList).map fun ws => ws.map String.ofList

end ChangeLint.Command
