/-
The names of the printable characters of ASCII.
-/
namespace ChangeLint.Text

def digitWords : List String := ["ZERO", "ONE", "TWO", "THREE", "FOUR", "FIVE", "SIX", "SEVEN", "EIGHT", "NINE"]

def markNames : List (String × Char) :=
  [("SPACE", ' '), ("EXCLAMATION MARK", '!'), ("QUOTATION MARK", '"'), ("NUMBER SIGN", '#'), ("DOLLAR SIGN", '$'),
   ("PERCENT SIGN", '%'), ("AMPERSAND", '&'), ("APOSTROPHE", '\''), ("LEFT PARENTHESIS", '('),
   ("RIGHT PARENTHESIS", ')'), ("ASTERISK", '*'), ("PLUS SIGN", '+'), ("COMMA", ','), ("HYPHEN-MINUS", '-'),
   ("FULL STOP", '.'), ("SOLIDUS", '/'), ("COLON", ':'), ("SEMICOLON", ';'), ("LESS-THAN SIGN", '<'),
   ("EQUALS SIGN", '='), ("GREATER-THAN SIGN", '>'), ("QUESTION MARK", '?'), ("COMMERCIAL AT", '@'),
   ("LEFT SQUARE BRACKET", '['), ("REVERSE SOLIDUS", '\\'), ("RIGHT SQUARE BRACKET", ']'), ("CIRCUMFLEX ACCENT", '^'),
   ("LOW LINE", '_'), ("GRAVE ACCENT", '\x60'), ("LEFT CURLY BRACKET", '\x7b'), ("VERTICAL LINE", '|'),
   ("RIGHT CURLY BRACKET", '\x7d'), ("TILDE", '~')]

/-- the character of ASCII with a name, upper and lower case being the same -/
def namedAscii? (name : String) : Option Char :=
  let upper := String.ofList (name.toList.map Char.toUpper)
  match upper.splitOn " " with
  | ["DIGIT", word] => (digitWords.idxOf? word).map fun n => Char.ofNat (48 + n)
  | ["LATIN", "CAPITAL", "LETTER", letter] => ofLetter letter
  | ["LATIN", "SMALL", "LETTER", letter] => (ofLetter letter).map Char.toLower
  | _ => markNames.lookup upper
where
  ofLetter (letter : String) : Option Char :=
    match letter.toList with
    | [c] => if 'A' ≤ c ∧ c ≤ 'Z' then some c else none
    | _ => none

end ChangeLint.Text
