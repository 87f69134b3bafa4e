/-
Parsers over the tokens of a script: each takes tokens from the front, or refuses. Loops end because an item takes at least
one token.
-/
import ChangeLint.Script.Token

namespace ChangeLint.Script

/-- a parser: what it makes of the tokens in front, and the tokens left -/
abbrev Parser := StateT (List Token) Option

namespace Parser

variable {α : Type}

def upcoming : Parser (Option Kind) := return (← get).head?.map (·.kind)

def take (k : Kind) : Parser Unit := do
  match ← get with
  | t :: rest => if t.kind = k then set rest else failure
  | [] => failure

def mark (s : String) : Parser Unit := take (.mark s)

/-- true when a keyword or sign comes next -/
def sees (s : String) : Parser Bool := return (← upcoming) == some (.mark s)

/-- true when one of some keywords or signs comes next -/
def seesAny (ss : List String) : Parser Bool := do
  match ← upcoming with
  | some (.mark s) => pure (ss.contains s)
  | _ => pure false

/-- takes a keyword or sign if it comes next -/
def skips (s : String) : Parser Bool := do
  if ← sees s then
    modify (·.drop 1)
    pure true
  else pure false

/-- takes one of some keywords or signs if one comes next -/
def skipsAny (ss : List String) : Parser Bool := do
  if ← seesAny ss then
    modify (·.drop 1)
    pure true
  else pure false

def name : Parser (String × Nat) := do
  match ← get with
  | ⟨.name s, line⟩ :: rest => set rest; pure (s, line)
  | _ => failure

/-- true when a name and then a sign come next -/
def seesNameBefore (s : String) : Parser Bool := do
  match ← get with
  | ⟨.name _, _⟩ :: t :: _ => pure (t.kind == .mark s)
  | _ => pure false

/-- what a parser yields, or nothing, and then no token is taken -/
def maybe (p : Parser α) : Parser (Option α) := some <$> p <|> pure none

/-- what a parser yields, no token being taken -/
def ahead (p : Parser α) : Parser α := do
  let ts ← get
  let a ← p
  set ts
  pure a

/-- a step done as long as it yields something, at most so many times -/
def iterate (step : α → Parser (Option α)) : Nat → α → Parser α
  | 0, a => pure a
  | n + 1, a => do
    match ← step a with
    | some b => iterate step n b
    | none => pure a

/-- a step done as long as it yields something -/
def loop (step : α → Parser (Option α)) (a : α) : Parser α := do
  let ts ← get
  iterate step (ts.length + 1) a

/-- items with a link between them; a link that comes next has to have an item behind it -/
def chain (item : Parser α) (link : Parser Bool) : Parser (List α) := do
  let first ← item
  let found ← loop (fun found => do if ← link then return some ((← item) :: found) else return none) [first]
  pure found.reverse

/-- items with commas between them, and whether there is a comma: one may also stand at the end -/
def commas (item : Parser α) : Parser (List α × Bool) := do
  let first ← item
  let step (st : List α × Bool × Bool) : Parser (Option (List α × Bool × Bool)) := do
    let (found, _, ended) := st
    if ended then return none
    if ← skips "," then
      match ← maybe item with
      | some a => return some (a :: found, true, false)
      | none => return some (found, true, true)
    else return none
  let (found, any, _) ← loop step ([first], false, false)
  pure (found.reverse, any)

end Parser

end ChangeLint.Script
