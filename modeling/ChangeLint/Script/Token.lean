/-
Tokens of a script: names, keywords and signs, numbers, texts, and the ends and indents of lines.
-/
namespace ChangeLint.Script

/-- what the letters before a quote say about a text; `raw` ones have no escapes, `bytes` are no texts, and `formatted` ones
hold expressions -/
structure Flavor where
  raw : Bool
  bytes : Bool
  formatted : Bool
deriving DecidableEq, Repr

/-- one token; a mark is a keyword or a sign -/
inductive Kind
  | name (s : String)
  | mark (s : String)
  | number (imaginary : Bool)
  | text (flavor : Flavor) (body : List Char)
  | newline
  | indent
  | dedent
  | finish
deriving DecidableEq, Repr

/-- a token and the line that it begins on -/
structure Token where
  kind : Kind
  line : Nat
deriving DecidableEq, Repr

def keywords : List String :=
  ["False", "None", "True", "and", "as", "assert", "async", "await", "break", "class", "continue", "def", "del", "elif",
   "else", "except", "finally", "for", "from", "global", "if", "import", "in", "is", "lambda", "nonlocal", "not", "or",
   "pass", "raise", "return", "try", "while", "with", "yield"]

def signs : List String :=
  ["**=", "...", "//=", "<<=", ">>=", "!=", "%=", "&=", "**", "*=", "+=", "-=", "->", "//", "/=", ":=", "<<", "<=", "<>",
   "==", ">=", ">>", "@=", "^=", "|=", "%", "&", "(", ")", "*", "+", ",", "-", ".", "/", ":", ";", "<", "=", ">", "@",
   "[", "]", "^", "\x7b", "|", "\x7d", "~"]

end ChangeLint.Script
