/-
Blanks: the characters that separate words and that trimming takes away. The class is the Unicode one (property
White_Space and the four information separators U+001C to U+001F), not the ASCII one.

`isBlank` is the class, `trim`, `trimStart` and `trimEnd` take characters of any class off the ends of a text, and
`words` cuts a text at its blanks.
-/
namespace ChangeLint.Text

/-- the blanks: controls from tab to carriage return, information separators, spaces, line and paragraph separators -/
def isBlank (c : Char) : Bool :=
  let n := c.toNat
  (9 ≤ n && n ≤ 13) || (28 ≤ n && n ≤ 32) || n == 0x85 || n == 0xa0 || n == 0x1680 || (0x2000 ≤ n && n ≤ 0x200a)
    || n == 0x2028 || n == 0x2029 || n == 0x202f || n == 0x205f || n == 0x3000

/-- a text without its leading characters of a class -/
abbrev trimStart (p : Char → Bool) (cs : List Char) : List Char := cs.dropWhile p

/-- a text without its trailing characters of a class -/
def trimEnd (p : Char → Bool) (cs : List Char) : List Char := (cs.reverse.dropWhile p).reverse

/-- a text without the characters of a class at both ends -/
def trim (p : Char → Bool) (cs : List Char) : List Char := trimEnd p (trimStart p cs)

/-- `trim` at blanks, on strings -/
def stripped (s : String) : String := String.ofList (trim isBlank s.toList)

/-- true when a text holds nothing but blanks -/
def isAllBlank (s : String) : Bool := s.toList.all isBlank

/-- the word read so far is put in front of the words that follow it -/
def flushWord (word : List Char) (rest : List (List Char)) : List (List Char) :=
  if word.isEmpty then rest else word.reverse :: rest

/-- the maximal runs of characters that are no blanks; `word` holds the run read so far, backwards -/
def wordsFrom (word : List Char) : List Char → List (List Char)
  | [] => flushWord word []
  | c :: cs => if isBlank c then flushWord word (wordsFrom [] cs) else wordsFrom (c :: word) cs

def words (cs : List Char) : List (List Char) := wordsFrom [] cs

end ChangeLint.Text
