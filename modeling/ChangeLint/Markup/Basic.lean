/-
Markup in texts: tags in square brackets set a style up to their closing tag. `plain` leaves the tags out and refuses a
closing tag that closes nothing; `escape` puts backslashes before what looks like a tag, so that it is shown.
-/
import ChangeLint.Markup.Style

namespace ChangeLint.Markup

/-- why a text is no markup, with the tag and its place -/
inductive Error
  | unmatched (tag : String) (position : Nat)
  | nothingOpen (position : Nat)
deriving DecidableEq, Repr

def Error.message : Error → String
  | .unmatched tag n => "closing tag '[" ++ tag ++ s!"]' at position {n} doesn't match any open tag"
  | .nothingOpen n => s!"closing tag '[/]' at position {n} has nothing to close"

/-- true of what a tag may begin with -/
def beginsTag (c : Char) : Bool := ('a' ≤ c && c ≤ 'z') || c = '#' || c = '/' || c = '@'

/-- a piece of markup: text, or what stands between the brackets of a tag and its place -/
inductive Piece
  | text (cs : List Char)
  | tag (body : List Char) (position : Nat)
deriving DecidableEq, Repr

/-- what stands before a closing bracket, and the rest after it, if no opening one comes before it -/
def upToClose (found : List Char) : List Char → Option (List Char × List Char)
  | [] => none
  | c :: cs =>
    if c = ']' then some (found.reverse, cs)
    else if c = '[' then none
    else upToClose (c :: found) cs

/-- a tag at the beginning of a text: its body and the rest -/
def tagAt? : List Char → Option (List Char × List Char)
  | '[' :: c :: cs => if beginsTag c then (upToClose [] cs).map fun (body, rest) => (c :: body, rest) else none
  | _ => none

def putText (cs : List Char) (more : List Piece) : List Piece := if cs.isEmpty then more else .text cs :: more

/-- the pieces of markup; `found` is the text since the last tag, backwards. Of the backslashes before a tag every two are
one that is shown, and one that is left over makes the tag text. -/
def pieces (fuel pos : Nat) (found cs : List Char) : List Piece :=
  match fuel with
  | 0 => []
  | fuel + 1 =>
    match cs with
    | [] => putText found.reverse []
    | c :: rest =>
      let (slashes, after) := cs.span (· = '\\')
      match tagAt? after with
      | none =>
        if slashes.isEmpty then pieces fuel (pos + 1) (c :: found) rest
        else pieces fuel (pos + slashes.length) (slashes ++ found) after
      | some (body, rest) =>
        let n := slashes.length
        let next := pos + n + body.length + 2
        let shown := List.replicate (n / 2) '\\'
        putText found.reverse <| putText shown <|
          if n % 2 = 1 then .text ('[' :: body ++ [']']) :: pieces fuel next [] rest
          else .tag body (pos + n) :: pieces fuel next [] rest

/-- a text with the backslashes before square brackets left out -/
def unslashed : List Char → List Char
  | '\\' :: '[' :: cs => '[' :: unslashed cs
  | c :: cs => c :: unslashed cs
  | [] => []

/-- the control characters that are never shown -/
def isHidden (c : Char) : Bool := ['\x07', '\x08', '\x0b', '\x0c', '\x0d'].contains c

/-- a stack without its topmost item of a name -/
def close? (name : String) : List String → Option (List String)
  | [] => none
  | t :: ts => if t = name then some ts else (close? name ts).map (t :: ·)

/-- the text of pieces, `opened` being the names of the tags that are open -/
def render (opened : List String) : List Piece → Except Error (List Char)
  | [] => .ok []
  | .text cs :: more => (render opened more).map (unslashed cs ++ ·)
  | .tag body n :: more =>
    let name := body.takeWhile (· != '=')
    match name with
    | '/' :: closing =>
      let closing := Text.trim Text.isBlank closing
      if closing.isEmpty then
        match opened with
        | [] => .error (.nothingOpen n)
        | _ :: opened => render opened more
      else
        match close? (canonical closing) opened with
        | some opened => render opened more
        | none => .error (.unmatched (String.ofList body) n)
    | name => render (canonical name :: opened) more

/-- the text that markup shows -/
def plain (cs : List Char) : Except Error (List Char) :=
  let shown := if cs.contains '[' then render [] (pieces (cs.length + 1) 0 [] cs) else .ok cs
  shown.map fun cs => cs.filter fun c => !isHidden c

/-- a text with backslashes before what looks like a tag -/
def escapeTags (fuel : Nat) (cs : List Char) : List Char :=
  match fuel with
  | 0 => cs
  | fuel + 1 =>
    match cs with
    | [] => []
    | c :: rest =>
      let (slashes, after) := cs.span (· = '\\')
      match tagAt? after with
      | some (body, rest) => slashes ++ slashes ++ ['\\', '['] ++ body ++ [']'] ++ escapeTags fuel rest
      | none => if slashes.isEmpty then c :: escapeTags fuel rest else slashes ++ escapeTags fuel after

/-- a text as markup that is to show it; a single backslash at its end is doubled -/
def escape (cs : List Char) : List Char :=
  let escaped := escapeTags (cs.length + 1) cs
  match escaped.reverse with
  | '\\' :: '\\' :: _ => escaped
  | '\\' :: _ => escaped ++ ['\\']
  | _ => escaped

end ChangeLint.Markup
