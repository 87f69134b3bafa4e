/-
Keys and values of TOML: dotted keys, texts, truth values, arrays, inline tables, moments and numbers.
-/
import ChangeLint.Toml.Scalar
import ChangeLint.Toml.Space

namespace ChangeLint.Toml

def isBareKey (c : Char) : Bool := c.isAlphanum || c = '-' || c = '_'

def keyPart (cs : List Char) : Result String :=
  match cs with
  | [] => refuse .keyStart []
  | c :: rest =>
    if isBareKey c then
      let (name, rest) := cs.span isBareKey
      .ok (String.ofList name, rest)
    else if c = '\'' || c = '"' then
      (oneLine c rest).map fun (name, rest) => (String.ofList name, rest)
    else refuse .keyStart cs

/-- the parts of a key after the first one, and the blanks after it -/
def keyParts (fuel : Nat) (found : Key) (cs : List Char) : Result Key :=
  match fuel, cs with
  | fuel + 1, '.' :: rest =>
    match keyPart (skipBlanks rest) with
    | .error e => .error e
    | .ok (name, rest) => keyParts fuel (found ++ [name]) (skipBlanks rest)
  | _, _ => .ok (found, cs)

/-- a dotted key and the blanks after it -/
def key (cs : List Char) : Except Refusal (Key × List Char) := do
  let (first, rest) ← keyPart cs
  keyParts rest.length [first] (skipBlanks rest)

/-- the rest after blanks, ends of lines and comments -/
def skipFiller (fuel : Nat) (cs : List Char) : Except Refusal (List Char) :=
  match fuel with
  | 0 => .ok cs
  | fuel + 1 => do
    let rest ← skipComment (skipSpace cs)
    if rest.length = cs.length then pure rest else skipFiller fuel rest

def word? (cs : List Char) : Option (Datum × List Char) :=
  match cs with
  | 't' :: 'r' :: 'u' :: 'e' :: rest => some (.bool true, rest)
  | 'f' :: 'a' :: 'l' :: 's' :: 'e' :: rest => some (.bool false, rest)
  | _ => none

/-- a moment, a number or a word -/
def scalar (cs : List Char) : Result Datum :=
  match word? cs with
  | some found => .ok found
  | none =>
    match moment? cs with
    | some r => r
    | none =>
      match number? cs with
      | some r => r
      | none =>
        match namedReal? cs with
        | some found => .ok found
        | none => refuse .value cs

/-- true of arrays and tables -/
def isContainer : Datum → Bool
  | .list _ => true
  | .table _ => true
  | _ => false

/-- adds a value to an inline table, `rest` being what follows it -/
def addInline (marks : List Mark) (ms : Members) (k : Key) (value : Datum) (rest : List Char) :
    Except Refusal Members :=
  if forbids marks k .change then refuse (.immutable k) rest
  else
    let last := k.getLastD ""
    match behind? false k.dropLast ms with
    | none => refuse .overwrite rest
    | some t =>
      if (Datum.get? last t).isSome then refuse (.duplicate last) rest
      else
        match changeBehind false (fun t => some (t ++ [(last, value)])) k.dropLast ms with
        | none => refuse .overwrite rest
        | some ms => .ok ms

mutual

def value (fuel : Nat) (cs : List Char) : Result Datum :=
  match fuel, cs with
  | 0, _ => refuse .value cs
  | _, [] => refuse .value []
  | fuel + 1, c :: rest =>
    if c = '"' || c = '\'' then (quoted c cs).map fun (text, rest) => (.text (String.ofList text), rest)
    else if c = '[' then
      match skipFiller cs.length rest with
      | .error e => .error e
      | .ok (']' :: after) => .ok (.list [], after)
      | .ok body => items fuel [] body
    else if c = '\x7b' then
      match skipBlanks rest with
      | '\x7d' :: after => .ok (.table [], after)
      | body => inline fuel [] [] body
    else scalar cs

def items (fuel : Nat) (found : List Datum) (cs : List Char) : Result Datum :=
  match fuel with
  | 0 => refuse .unclosedArray cs
  | fuel + 1 =>
    match value fuel cs with
    | .error e => .error e
    | .ok (d, rest) =>
      let found := found ++ [d]
      match skipFiller (rest.length + 1) rest with
      | .error e => .error e
      | .ok (']' :: after) => .ok (.list found, after)
      | .ok (',' :: after) =>
        match skipFiller (after.length + 1) after with
        | .error e => .error e
        | .ok (']' :: after) => .ok (.list found, after)
        | .ok body => items fuel found body
      | .ok rest => refuse .unclosedArray rest

def inline (fuel : Nat) (marks : List Mark) (ms : Members) (cs : List Char) : Result Datum :=
  match fuel with
  | 0 => refuse .unclosedTable cs
  | fuel + 1 =>
    match pair fuel cs with
    | .error e => .error e
    | .ok ((k, d), rest) =>
      match addInline marks ms k d rest with
      | .error e => .error e
      | .ok ms =>
        match skipBlanks rest with
        | '\x7d' :: after => .ok (.table ms, after)
        | ',' :: after =>
          inline fuel (if isContainer d then marks ++ [⟨k, .change, true⟩] else marks) ms (skipBlanks after)
        | rest => refuse .unclosedTable rest

/-- a key, an equals sign and a value -/
def pair (fuel : Nat) (cs : List Char) : Result (Key × Datum) :=
  match fuel with
  | 0 => refuse .value cs
  | fuel + 1 =>
    match key cs with
    | .error e => .error e
    | .ok (k, '=' :: rest) => (value fuel (skipBlanks rest)).map fun (d, rest) => ((k, d), rest)
    | .ok (_, rest) => refuse .equalsSign rest

end

end ChangeLint.Toml
