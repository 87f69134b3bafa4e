/-
Quoted texts in TOML: basic ones between double quotes, with escapes, and literal ones between single quotes, without.
Three quotes open a text of several lines, whose first line may be empty.
-/
import ChangeLint.Toml.Refusal

namespace ChangeLint.Toml

def isBlank (c : Char) : Bool := c = ' ' || c = '\t'

/-- the rest after blanks within a line -/
def skipBlanks (cs : List Char) : List Char := cs.dropWhile isBlank

/-- the rest after blanks and ends of lines -/
def skipSpace (cs : List Char) : List Char := cs.dropWhile fun c => isBlank c || c = '\n'

/-- the controls that a text may not hold; one of several lines may hold their ends -/
def isControl (multiline : Bool) (c : Char) : Bool :=
  (c.toNat < 32 || c.toNat = 127) && c != '\t' && !(multiline && c = '\n')

/-- refuses the first control in a part of a text, `rest` being what follows that part -/
def refuseControl (multiline : Bool) (part rest : List Char) : Except Refusal Unit :=
  match part.dropWhile fun c => !isControl multiline c with
  | [] => .ok ()
  | c :: cs => .error (.malformed (.invalidCharacter c) ((c :: cs).length + rest.length))

/-- the part before the first occurrence of a text and what follows that occurrence -/
def upTo (t : List Char) : List Char → Option (List Char × List Char)
  | [] => none
  | c :: cs =>
    if t.isPrefixOf (c :: cs) then some ([], (c :: cs).drop t.length)
    else (upTo t cs).map fun (part, rest) => (c :: part, rest)

def skipComment : List Char → Except Refusal (List Char)
  | '#' :: cs => do
    let (part, rest) := cs.span (· != '\n')
    refuseControl false part rest
    pure rest
  | cs => pure cs

def literal (multiline : Bool) (closing : String) (cs : List Char) : Except Refusal ((List Char) × List Char) := do
  match upTo closing.toList cs with
  | none => refuse (.expected closing) []
  | some (part, rest) =>
    refuseControl multiline part (closing.toList ++ rest)
    pure (part, rest)

/-- the character that a one-letter escape stands for -/
def escapeOf? : Char → Option Char
  | 'b' => some '\x08'
  | 't' => some '\t'
  | 'n' => some '\n'
  | 'f' => some '\x0c'
  | 'r' => some '\r'
  | '"' => some '"'
  | '\\' => some '\\'
  | _ => none

def hexValue? (c : Char) : Option Nat :=
  if '0' ≤ c && c ≤ '9' then some (c.toNat - 48)
  else if 'a' ≤ c && c ≤ 'f' then some (c.toNat - 87)
  else if 'A' ≤ c && c ≤ 'F' then some (c.toNat - 55)
  else none

/-- a character by exactly `n` hexadecimal digits -/
def hexChar (n : Nat) (cs : List Char) : Result (List Char) :=
  let ds := (cs.take n).filterMap hexValue?
  if ds.length ≠ n then refuse .hexDigits cs
  else
    let rest := cs.drop n
    let code := ds.foldl (fun v d => v * 16 + d) 0
    if h : code.isValidChar then .ok ([Char.ofNatAux code h], rest) else refuse .notScalar rest

/-- what an escape stands for, after its backslash; at the end of a line it stands for nothing and takes the blanks that
follow along -/
def escape (multiline : Bool) : List Char → Result (List Char)
  | [] => refuse .escape []
  | c :: cs =>
    if multiline && c = '\n' then .ok ([], skipSpace cs)
    else if multiline && isBlank c then
      match skipBlanks cs with
      | [] => .ok ([], [])
      | '\n' :: rest => .ok ([], skipSpace rest)
      | rest => refuse .escape rest
    else if c = 'u' then hexChar 4 cs
    else if c = 'U' then hexChar 8 cs
    else match escapeOf? c with
      | some d => .ok ([d], cs)
      | none => refuse .escape cs

/-- a basic text up to its closing quotes; `found` is what comes before, backwards -/
def basic (multiline : Bool) (fuel : Nat) (found : List Char) (cs : List Char) : Result (List Char) :=
  match fuel, cs with
  | 0, _ => refuse .unterminated cs
  | _, [] => refuse .unterminated []
  | fuel + 1, c :: rest =>
    if c = '"' then
      if !multiline then .ok (found.reverse, rest)
      else match rest with
        | '"' :: '"' :: after => .ok (found.reverse, after)
        | _ => basic multiline fuel (c :: found) rest
    else if c = '\\' then
      match escape multiline rest with
      | .error e => .error e
      | .ok (text, after) => basic multiline fuel (text.reverse ++ found) after
    else if isControl multiline c then refuse (.illegalCharacter c) cs
    else basic multiline fuel (c :: found) rest

/-- up to two quotes right after closing quotes belong to the text -/
def extraQuotes (q : Char) (text rest : List Char) : List Char × List Char :=
  match rest with
  | a :: b :: more =>
    if a = q then (if b = q then (text ++ [q, q], more) else (text ++ [q], b :: more)) else (text, rest)
  | [a] => if a = q then (text ++ [q], []) else (text, rest)
  | [] => (text, [])

/-- the rest after the empty first line of a text of several lines -/
def skipFirstLine : List Char → List Char
  | '\n' :: cs => cs
  | cs => cs

/-- a text on one line after its opening quote -/
def oneLine (q : Char) (cs : List Char) : Result (List Char) :=
  if q = '\'' then literal false "'" cs else basic false (cs.length + 1) [] cs

/-- a text of several lines after its opening quotes -/
def severalLines (q : Char) (cs : List Char) : Except Refusal ((List Char) × List Char) := do
  let body := skipFirstLine cs
  let (text, rest) ← if q = '\'' then literal true "'''" body else basic true (body.length + 1) [] body
  pure (extraQuotes q text rest)

/-- a text from its first quote on -/
def quoted (q : Char) (cs : List Char) : Result (List Char) :=
  match cs with
  | _ :: b :: c :: rest => if b = q && c = q then severalLines q rest else oneLine q (b :: c :: rest)
  | _ :: rest => oneLine q rest
  | [] => oneLine q []

end ChangeLint.Toml
