/-
Patterns of cases: what a value is matched with. Only their form matters here, so a parser yields nothing. Each takes the
parser `p` for the patterns inside it.
-/
import ChangeLint.Script.Parser

namespace ChangeLint.Script.Case

open Script.Parser

/-- a name that takes a value; one underscore takes none -/
def capture : Parser Unit := do
  let (s, _) ← name
  if s = "_" || (← seesAny [".", "(", "="]) then failure

/-- the rest of a name with dots, after its first part; true when there is any -/
def dotted : Parser Bool := loop (fun _ => do
  if ← skips "." then
    let _ ← name
    return some true
  else return none) false

/-- a number, and whether it is imaginary -/
def number : Parser Bool := do
  match ← get with
  | ⟨.number imaginary, _⟩ :: rest => set rest; pure imaginary
  | _ => failure

/-- a number with a sign in front, or a sum or difference of a real and an imaginary one -/
def signedNumber : Parser Unit := do
  let _ ← skips "-"
  let imaginary ← number
  if ← skipsAny ["+", "-"] then
    if imaginary || !(← number) then failure

/-- a fixed value; `texts` reads those that are texts -/
def fixed (texts : Parser Unit) : Parser Unit := do
  match ← upcoming with
  | some (.text _ _) => texts
  | some (.number _) => signedNumber
  | some (.mark "-") => signedNumber
  | _ => if ← skipsAny ["None", "True", "False"] then pure () else failure

section

variable (texts p : Parser Unit)

/-- a pattern, or a star and a name -/
def starred : Parser Unit := do
  if ← skips "*" then
    let _ ← name
    if ← seesAny [".", "(", "="] then failure
  else p

/-- what follows the opening bracket of a class: patterns by position, then by name -/
def fieldPatterns : Parser Unit := do
  let step (st : Bool × Bool) : Parser (Option (Bool × Bool)) := do
    let (named, ended) := st
    if ended || (← sees ")") then return none
    let named ←
      if ← seesNameBefore "=" then
        let _ ← name
        mark "="
        p
        pure true
      else if named then failure
      else
        p
        pure false
    if ← skips "," then return some (named, false) else return some (named, true)
  let _ ← loop step (false, false)
  mark ")"

/-- what follows the opening bracket of a mapping -/
def mapping : Parser Unit := do
  let step (ended : Bool) : Parser (Option Bool) := do
    if ended || (← sees "\x7d") then return none
    if ← skips "**" then
      capture
      let _ ← skips ","
      return some true
    match ← upcoming with
    | some (.name _) =>
      let _ ← name
      if !(← dotted) then failure
    | _ => fixed texts
    mark ":"
    p
    if ← skips "," then return some false else return some true
  let _ ← loop step false
  mark "\x7d"

/-- patterns with commas between them, up to a closing bracket -/
def sequence (close : String) : Parser Unit := do
  if !(← sees close) then
    let _ ← commas (starred p)
  mark close

/-- what follows an opening round bracket: one pattern, or a sequence of them -/
def group : Parser Unit := do
  if !(← sees ")") then
    let star ← sees "*"
    let (_, any) ← commas (starred p)
    if star && !any then failure
  mark ")"

def closedPattern : Parser Unit := do
  match ← upcoming with
  | some (.name _) =>
    let (s, _) ← name
    -- one underscore matches all, and nothing more belongs to it
    if s = "_" then pure ()
    else
      let _ ← dotted
      if ← skips "(" then fieldPatterns p
      else if ← sees "=" then failure
  | _ =>
    if ← skips "(" then group p
    else if ← skips "[" then sequence p "]"
    else if ← skips "\x7b" then mapping texts p
    else fixed texts

/-- alternatives, and a name for what matches -/
def pattern : Parser Unit := do
  let _ ← chain (closedPattern texts p) (skips "|")
  if ← skips "as" then capture

end

/-- the parser for patterns that are nested at most so deep -/
def patternAt (texts : Parser Unit) : Nat → Parser Unit
  | 0 => failure
  | n + 1 => pattern texts (patternAt texts n)

/-- the patterns of a case: one, or a sequence without brackets -/
def patterns (p : Parser Unit) : Parser Unit := do
  let star ← sees "*"
  let (_, any) ← commas (starred p)
  if star && !any then failure

end ChangeLint.Script.Case
