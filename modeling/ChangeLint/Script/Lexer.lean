/-
The lexer: a script as a list of tokens, none when some part of it is no token.

Lines that hold nothing but blanks and a comment are left out, as are ends of lines within brackets. The indent of a line is
measured twice, with tabs to every eighth and to every single column; both measures have to agree on which lines are
deeper.
-/
import ChangeLint.Script.Number
import ChangeLint.Script.Text
import ChangeLint.Text.Identifier
import ChangeLint.Text.Normal
import ChangeLint.Text.Split

namespace ChangeLint.Script

structure Lexer where
  rest : List Char
  line : Nat
  fresh : Bool
  brackets : List Char
  indents : List (Nat × Nat)
deriving Repr

/-- the most levels of brackets, and of indents -/
def bracketLimit : Nat := 200
def indentLimit : Nat := 100

/-- the rest after a backslash at the end of a line; there must be another line -/
def afterContinuation : List Char → Option (List Char)
  | '\n' :: c :: cs => some (c :: cs)
  | _ => none

/-- the indent of a line: both measures and the rest, and how many lines it runs over; one that has a backslash counts up
to it -/
def measure (fuel : Nat) (col alt : Nat) (fixed : Option Nat) (lines : Nat) (cs : List Char) :
    Option (Nat × Nat × Nat × List Char) :=
  match fuel with
  | 0 => none
  | fuel + 1 =>
    match cs with
    | ' ' :: cs => measure fuel (col + 1) (alt + 1) fixed lines cs
    | '\t' :: cs => measure fuel ((col / 8 + 1) * 8) (alt + 1) fixed lines cs
    | '\x0c' :: cs => measure fuel 0 0 fixed lines cs
    | '\\' :: cs =>
      match afterContinuation cs with
      | none => none
      | some cs => measure fuel col alt (match fixed with | some n => some n | none => if col = 0 then none else some col)
          (lines + 1) cs
    | cs => some (fixed.getD col, fixed.getD alt, lines, cs)

/-- the levels that are left at an indent, and how many have been closed; none when it fits no level -/
def dedentTo (col alt : Nat) (closed : Nat) : List (Nat × Nat) → Option (List (Nat × Nat) × Nat)
  | [] => if col = 0 && alt = 0 then some ([], closed) else none
  | (c, a) :: more =>
    if col < c then dedentTo col alt (closed + 1) more
    else if col = c && alt = a then some ((c, a) :: more, closed)
    else none

def indentTokens (col alt : Nat) (indents : List (Nat × Nat)) : Option (List Kind × List (Nat × Nat)) :=
  let (c, a) := indents.headD (0, 0)
  if col = c then (if alt = a then some ([], indents) else none)
  else if c < col then
    if indentLimit ≤ indents.length + 1 || alt ≤ a then none else some ([.indent], (col, alt) :: indents)
  else (dedentTo col alt 0 indents).map fun (more, closed) => (List.replicate closed .dedent, more)

/-- a text up to its closing quotes: its body backwards, and the rest -/
def textBody (q : Char) (long : Bool) (found : List Char) : List Char → Option (List Char × List Char)
  | [] => none
  | '\\' :: c :: cs => textBody q long (c :: '\\' :: found) cs
  | c :: cs =>
    if c = q then
      if long then
        match cs with
        | a :: b :: more => if a = q && b = q then some (found, more) else textBody q long (c :: found) (a :: b :: more)
        | _ => none
      else some (found, cs)
    else if c = '\n' && !long then none
    else textBody q long (c :: found) cs

def text : List Char → Option (List Char × List Char)
  | q :: a :: b :: cs =>
    if a = q && b = q then (textBody q true [] cs).map fun (body, rest) => (body.reverse, rest)
    else (textBody q false [] (a :: b :: cs)).map fun (body, rest) => (body.reverse, rest)
  | q :: cs => (textBody q false [] cs).map fun (body, rest) => (body.reverse, rest)
  | [] => none

def flavor? (letters : String) : Option Flavor :=
  match letters with
  | "" => some ⟨false, false, false⟩
  | "u" => some ⟨false, false, false⟩
  | "b" => some ⟨false, true, false⟩
  | "r" => some ⟨true, false, false⟩
  | "f" => some ⟨false, false, true⟩
  | "br" | "rb" => some ⟨true, true, false⟩
  | "fr" | "rf" => some ⟨true, false, true⟩
  | _ => none

/-- the sign at the beginning of a text -/
def sign? (cs : List Char) : Option String := signs.find? fun s => s.toList.isPrefixOf cs

/-- the number of ends of lines in a part of a text -/
def lineCount (cs : List Char) : Nat := cs.count '\n'

namespace Lexer

/-- the state some characters later -/
def skip (l : Lexer) (rest : List Char) : Lexer :=
  { l with rest := rest, line := l.line + lineCount (l.rest.take (l.rest.length - rest.length)), fresh := false }

/-- the brackets after a sign; none when it closes what is not open -/
def nest (brackets : List Char) (sign : String) : Option (List Char) :=
  match sign.toList with
  | [c] =>
    if c = '(' || c = '[' || c = '\x7b' then (if bracketLimit ≤ brackets.length then none else some (c :: brackets))
    else if c = ')' || c = ']' || c = '\x7d' then
      match brackets with
      | b :: more => if closing b = c then some more else none
      | [] => none
    else some brackets
  | _ => some brackets

/-- a name, a keyword, or a text with letters before its quote -/
def word (l : Lexer) : Option (Kind × Lexer) :=
  let (letters, rest) := l.rest.span isNameChar
  let quote := rest.head?.any fun c => c = '\'' || c = '"'
  match quote, flavor? (String.ofList (letters.map Char.toLower)) with
  | true, some f => (text rest).map fun (body, after) => (.text f body, l.skip after)
  | _, _ =>
    let s := String.ofList letters
    if keywords.contains s then some (.mark s, l.skip rest)
    else if Text.isIdentifier letters then some (.name (String.ofList (Text.normal letters)), l.skip rest)
    else none

def sign (l : Lexer) : Option (Kind × Lexer) := do
  let s ← sign? l.rest
  let brackets ← nest l.brackets s
  pure (.mark s, { l.skip (l.rest.drop s.length) with brackets := brackets })

/-- one token at a character that begins one -/
def token (l : Lexer) : Option (Kind × Lexer) :=
  match l.rest with
  | [] => none
  | c :: cs =>
    if c.isDigit || (c = '.' && cs.head?.any Char.isDigit) then
      let found := if c = '.' then fractionEnd cs else number l.rest
      found.map fun (imaginary, rest) => (.number imaginary, l.skip rest)
    else if isNameChar c then l.word
    else if c = '\'' || c = '"' then
      (text l.rest).map fun (body, rest) => (.text ⟨false, false, false⟩ body, l.skip rest)
    else l.sign

/-- tokens before others, all on one line -/
def put (kinds : List Kind) (line : Nat) (more : List Token) : List Token := kinds.map (⟨·, line⟩) ++ more

/-- the tokens of what is left -/
def run (fuel : Nat) (l : Lexer) : Option (List Token) :=
  match fuel with
  | 0 => none
  | fuel + 1 =>
    if l.fresh then
      match measure (l.rest.length + 1) 0 0 none 0 l.rest with
      | none => none
      | some (col, alt, lines, rest) =>
        let l' := { l with rest := rest, line := l.line + lines, fresh := false }
        match rest with
        | '#' :: _ => run fuel { l' with rest := rest.dropWhile (· != '\n') |>.drop 1, line := l'.line + 1, fresh := true }
        | '\n' :: more => run fuel { l' with rest := more, line := l'.line + 1, fresh := true }
        | _ =>
          if !l.brackets.isEmpty then run fuel l'
          else
            match indentTokens col alt l.indents with
            | none => none
            | some (kinds, indents) => (run fuel { l' with indents := indents }).map (put kinds l'.line)
    else
      match l.rest with
      | [] => if l.brackets.isEmpty then some [⟨.finish, l.line⟩] else none
      | c :: cs =>
        if c = ' ' || c = '\t' || c = '\x0c' then run fuel { l with rest := cs }
        else if c = '#' then run fuel { l with rest := l.rest.dropWhile (· != '\n') }
        else if c = '\n' then
          let l' := { l with rest := cs, line := l.line + 1, fresh := true }
          if l.brackets.isEmpty then (run fuel l').map (⟨.newline, l.line⟩ :: ·) else run fuel l'
        else if c = '\\' then
          match afterContinuation cs with
          | none => none
          | some rest => run fuel { l with rest := rest, line := l.line + 1 }
        else
          match l.token with
          | none => none
          | some (k, l') => (run fuel l').map (⟨k, l.line⟩ :: ·)

end Lexer

/-- a text with the end of its last line -/
def closed (cs : List Char) : List Char := if cs.getLast? = some '\n' then cs else cs ++ ['\n']

def tokens (source : List Char) : Option (List Token) :=
  let cs := closed (Text.plainLines source)
  Lexer.run (2 * cs.length + 4) ⟨cs, 1, true, [], []⟩

def expressionTokens (source : List Char) : Option (List Token) :=
  Lexer.run (2 * source.length + 4) ⟨source, 1, false, [], []⟩

end ChangeLint.Script
