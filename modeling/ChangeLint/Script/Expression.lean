/-
Expressions. Every parser here takes the parser `e` for the expressions inside it, so that nesting is the only recursion;
what an operator joins is read in a row, since only its form matters.
-/
import ChangeLint.Script.Lexer
import ChangeLint.Script.Parser
import ChangeLint.Script.Statement

namespace ChangeLint.Script.Expression

open Script.Parser

/-- true when a named value comes next: a name with a walrus sign behind it -/
def seesBinding : Parser Bool := seesNameBefore ":="

/-- an expression, or a name bound to one -/
def named (e : Parser Form) : Parser Form := do
  if ← seesBinding then
    let _ ← name
    mark ":="
    let _ ← e
    pure .other
  else e

/-- the signs that may stand before an operand -/
def unarySigns : List String := ["+", "-", "~"]

/-- the signs between operands that bind closer than comparisons -/
def binarySigns : List String := ["|", "^", "&", "<<", ">>", "+", "-", "*", "/", "//", "%", "@", "**"]

def comparisonSigns : List String := ["==", "!=", "<=", "<", ">=", ">"]

/-- takes a comparison's sign or words if they come next -/
def comparisonSign : Parser Bool := do
  if ← skipsAny comparisonSigns then pure true
  else if ← skips "in" then pure true
  else if ← skips "is" then
    let _ ← skips "not"
    pure true
  else if ← skips "not" then
    mark "in"
    pure true
  else pure false

/-- a value of a parser, or of its kind when more of them follow -/
def joined (item : Parser Form) (link : Parser Bool) : Parser Form := do
  match ← chain item link with
  | [f] => pure f
  | _ => pure .other

/-- the parameters read so far, and what may still come -/
structure Signature where
  found : Parameters
  slash : Bool
  defaults : Bool
  star : Bool
  wanting : Bool
  closed : Bool

/-- a parameter's name, with its type where types may stand; a starred one may have a starred type -/
def parameterName (e bitwise : Parser Form) (typed starred : Bool) : Parser Parameter := do
  let (s, line) ← name
  if typed then
    if ← skips ":" then
      if ← (if starred then skips "*" else pure false) then
        let _ ← bitwise
      else
        let _ ← e
  pure ⟨s, line⟩

/-- one parameter or one of the signs between them -/
def parameterStep (e bitwise : Parser Form) (typed : Bool) (g : Signature) : Parser Signature := do
  if g.closed then failure
  else if ← skips "/" then
    if g.slash || g.star || g.found.byEither.isEmpty then failure
    pure { g with found := { g.found with byPosition := g.found.byEither, byEither := [] }, slash := true }
  else if ← skips "**" then
    if g.wanting then failure
    let p ← parameterName e bitwise typed false
    pure { g with found := { g.found with moreNames := some p }, closed := true }
  else if ← skips "*" then
    if g.star then failure
    if ← sees "," then pure { g with star := true, wanting := true }
    else
      let p ← parameterName e bitwise typed true
      pure { g with found := { g.found with morePositions := some p }, star := true }
  else
    let p ← parameterName e bitwise typed false
    let given ← skips "="
    if given then
      let _ ← e
    if !given && g.defaults && !g.star then failure
    let found :=
      if g.star then { g.found with byName := g.found.byName ++ [p] }
      else { g.found with byEither := g.found.byEither ++ [p] }
    pure { g with found := found, defaults := g.defaults || given, wanting := false }

/-- parameters up to a sign, which is not taken -/
def parameters (e bitwise : Parser Form) (typed : Bool) (stop : String) : Parser Parameters := do
  let step (g : Signature) : Parser (Option Signature) := do
    if ← sees stop then pure none
    else
      let g ← parameterStep e bitwise typed g
      if ← skips "," then pure (some g)
      else if ← sees stop then pure (some g)
      else failure
  let g ← loop step ⟨.empty, false, false, false, false, false⟩
  if g.wanting then failure else pure g.found

/-- what has been read of a call's arguments: nothing, or whether there was one by name and one with two stars -/
structure Arguments where
  first : Bool
  byName : Bool
  double : Bool

/-- true when a comprehension comes next -/
def seesFor : Parser Bool := do
  match ← get with
  | ⟨.mark "for", _⟩ :: _ => pure true
  | ⟨.mark "async", _⟩ :: ⟨.mark "for", _⟩ :: _ => pure true
  | _ => pure false

section

-- parsers for what is inside: an expression, a disjunction, an operand of a comparison, and a primary
variable (e disjunction bitwise primary : Parser Form)

/-- one target with or without a star -/
def target : Parser Form := do
  let f ← if ← skips "*" then Form.starred <$> primary else primary
  if f.isTarget then pure f else failure

def targets : Parser Unit := do
  let _ ← commas (target primary)

/-- the clauses of a comprehension -/
def forClauses : Parser Unit := do
  let clause : Parser Unit := do
    let _ ← skips "async"
    mark "for"
    targets primary
    mark "in"
    let _ ← disjunction
    loop (fun _ => do if ← skips "if" then return some (← (discard disjunction)) else return none) ()
  clause
  loop (fun _ => do if ← seesFor then return some (← clause) else return none) ()

/-- an item of a display: a named value, or an operand with a star -/
def starNamed : Parser Form := do
  if ← skips "*" then Form.starred <$> bitwise else named e

/-- one argument of a call; a lone one may be a comprehension where those are allowed -/
def argument (comprehension : Bool) (a : Arguments) : Parser Arguments := do
  if ← skips "**" then
    let _ ← e
    pure { a with first := false, double := true }
  else if ← skips "*" then
    if a.double then failure
    let _ ← e
    pure { a with first := false }
  else if ← seesNameBefore "=" then
    let _ ← name
    mark "="
    let _ ← e
    pure { a with first := false, byName := true }
  else if a.byName || a.double then failure
  else
    let _ ← named e
    if comprehension && a.first && (← seesFor) then
      forClauses disjunction primary
      if !(← sees ")") then failure
    pure { a with first := false }

/-- the arguments of a call after its opening bracket, the closing one included -/
def arguments (comprehension : Bool) : Parser Unit := do
  let step (a : Arguments) : Parser (Option Arguments) := do
    if ← sees ")" then return none
    let a ← argument e disjunction primary comprehension a
    if ← skips "," then return some a
    if ← sees ")" then return some a
    failure
  let _ ← loop step ⟨true, false, false⟩
  mark ")"

/-- one index or slice -/
def slice : Parser Unit := do
  if ← skips "*" then
    let _ ← e
  else
    let bound ← seesBinding
    if !(← sees ":") then
      let _ ← named e
    if ← (if bound then pure false else skips ":") then
      if !(← seesAny [",", "]", ":"]) then
        let _ ← e
      if ← skips ":" then
        if !(← seesAny [",", "]"]) then
          let _ ← e

/-- a value in yields: all that follows the word -/
def yielded (values : Parser Form) : Parser Form := do
  mark "yield"
  if ← skips "from" then
    let _ ← e
  else
    let _ ← maybe values
  pure .other

/-- values with commas between them, some with stars: a lone one, or a tuple -/
def values : Parser Form := do
  let (fs, any) ← commas (do if ← skips "*" then Form.starred <$> bitwise else e)
  match fs, any with
  | [f], false => pure f
  | fs, _ => pure (.tuple fs)

/-- what follows an opening round bracket: a value, a tuple, a comprehension, or a yield -/
def group : Parser Form := do
  if ← skips ")" then pure (.tuple [])
  else if ← sees "yield" then
    let f ← yielded e (values e bitwise)
    mark ")"
    pure f
  else
    let (fs, any) ← commas (starNamed e bitwise)
    match fs, any with
    | [.starred _], false => failure
    | [f], false =>
      if ← seesFor then
        forClauses disjunction primary
        mark ")"
        pure .other
      else
        mark ")"
        pure f
    | fs, _ =>
      mark ")"
      pure (.tuple fs)

/-- what follows an opening square bracket -/
def display : Parser Form := do
  if ← skips "]" then pure (.list [])
  else
    let (fs, any) ← commas (starNamed e bitwise)
    let single := match fs, any with
      | [.starred _], _ => false
      | [_], false => true
      | _, _ => false
    if single && (← seesFor) then
      forClauses disjunction primary
      mark "]"
      pure .other
    else
      mark "]"
      pure (.list fs)

def entry : Parser Unit := do
  if ← skips "**" then
    let _ ← bitwise
  else
    let _ ← e
    mark ":"
    let _ ← e

/-- what follows an opening curly bracket: a dictionary, a set, or a comprehension -/
def collection : Parser Form := do
  let close : Parser Form := do
    mark "\x7d"
    pure .other
  if ← skips "\x7d" then pure .other
  else if ← sees "**" then
    let _ ← commas (entry e bitwise)
    close
  else if ← sees "*" then
    let _ ← commas (starNamed e bitwise)
    close
  else
    let bound ← seesBinding
    let _ ← named e
    if ← (if bound then pure false else skips ":") then
      let _ ← e
      if ← seesFor then forClauses disjunction primary
      else if ← skips "," then
        let _ ← maybe (commas (entry e bitwise))
    else if ← seesFor then forClauses disjunction primary
    else if ← skips "," then
      let _ ← maybe (commas (starNamed e bitwise))
    close

/-- true when the expression of a field, put into round brackets, is one -/
def isField (source : List Char) : Bool :=
  match expressionTokens ('(' :: source ++ [')']) with
  | none => false
  | some ts => ((do mark "("; let _ ← group e disjunction bitwise primary; take .finish).run ts).isSome

/-- texts that stand side by side are one; bytes and others do not mix, and one with fields has no fixed value -/
def texts : Parser Form := do
  let step (found : List (Flavor × List Char)) : Parser (Option (List (Flavor × List Char))) := do
    match ← get with
    | ⟨.text flavor body, _⟩ :: rest =>
      set rest
      pure (some ((flavor, body) :: found))
    | _ => pure none
  let parts := (← loop step []).reverse
  if parts.isEmpty then failure
  if parts.any (·.1.bytes) && !(parts.all (·.1.bytes)) then failure
  let read (part : Flavor × List Char) : Option (List Char) :=
    if part.1.formatted then
      (textFields part.1 part.2).bind fun fs =>
        if fs.all (isField e disjunction bitwise primary) then some [] else none
    else plainText part.1 part.2
  match parts.mapM read with
  | none => failure
  | some bodies =>
    if parts.any fun p => p.1.bytes || p.1.formatted then pure .other else pure (.text bodies.flatten)

def atom : Parser Form := do
  match ← upcoming with
  | some (.name _) =>
    let _ ← name
    pure .name
  | some (.number _) =>
    modify (·.drop 1)
    pure .other
  | some (.text _ _) => texts e disjunction bitwise primary
  | _ =>
    if ← skipsAny ["True", "False", "None", "..."] then pure .other
    else if ← skips "(" then group e disjunction bitwise primary
    else if ← skips "[" then display e disjunction bitwise primary
    else
      mark "\x7b"
      collection e disjunction bitwise primary

/-- an atom and what follows it: attributes, calls, and items -/
def trailed : Parser Form := do
  let step (_ : Form) : Parser (Option Form) := do
    if ← skips "." then
      let _ ← name
      pure (some .place)
    else if ← skips "(" then
      arguments e disjunction primary true
      pure (some .other)
    else if ← skips "[" then
      let _ ← commas (slice e)
      mark "]"
      pure (some .place)
    else pure none
  loop step (← atom e disjunction bitwise primary)

end

/-- the parsers for the levels of expressions, each for one depth of nesting -/
structure Levels where
  primary : Parser Form
  bitwise : Parser Form
  disjunction : Parser Form
  expression : Parser Form

/-- an operand with its signs, and a wait before its value -/
def factor (primary : Parser Form) : Parser Form := do
  let signed ← loop (fun _ => do if ← skipsAny unarySigns then pure (some true) else pure none) false
  let waits ← skips "await"
  let f ← primary
  pure (if signed || waits then .other else f)

/-- a disjunction: comparisons with words before and between them -/
def disjunctionOf (bitwise : Parser Form) : Parser Form :=
  let negation : Parser Form := do
    let negated ← loop (fun _ => do if ← skips "not" then pure (some true) else pure none) false
    let f ← joined bitwise comparisonSign
    pure (if negated then .other else f)
  joined negation (skipsAny ["and", "or"])

/-- a function without a name, or a disjunction that may depend on another -/
def expressionOf (e bitwise disjunction : Parser Form) : Parser Form := do
  if ← skips "lambda" then
    let _ ← parameters e bitwise false ":"
    mark ":"
    let _ ← e
    pure .other
  else
    let f ← disjunction
    if ← skips "if" then
      let _ ← disjunction
      mark "else"
      let _ ← e
      pure .other
    else pure f

/-- the parsers for a depth of nesting from those for one less -/
def Levels.outside (l : Levels) : Levels :=
  let primary := trailed l.expression l.disjunction l.bitwise l.primary
  let bitwise := joined (factor primary) (skipsAny binarySigns)
  let disjunction := disjunctionOf bitwise
  ⟨primary, bitwise, disjunction, expressionOf l.expression l.bitwise disjunction⟩

/-- the parsers for expressions that are nested at most so deep -/
def levels : Nat → Levels
  | 0 => ⟨failure, failure, failure, failure⟩
  | n + 1 => (levels n).outside

end ChangeLint.Script.Expression
