/-
Statements and blocks of a script.
-/
import ChangeLint.Script.Case
import ChangeLint.Script.Expression

namespace ChangeLint.Script

open Script.Parser

/-- expressions and blocks that are nested deeper are refused -/
def depthLimit : Nat := 2000

def expressionLevels : Expression.Levels := Expression.levels depthLimit

namespace Block

section

variable (l : Expression.Levels)

def values : Parser Form := Expression.values l.expression l.bitwise

/-- a value that may be a yield -/
def given : Parser Form := do
  if ← sees "yield" then Expression.yielded l.expression (values l) else values l

/-- the signs that change what a name stands for -/
def changeSigns : List String :=
  ["+=", "-=", "*=", "/=", "//=", "%=", "@=", "&=", "|=", "^=", ">>=", "<<=", "**="]

/-- a value that stands alone or is given to something -/
def valueStatement : Parser Statement := do
  if ← sees "yield" then
    let _ ← given l
    pure .plain
  else
    let f ← values l
    if ← sees "=" then
      let step (f : Form) : Parser (Option Form) := do
        if ← skips "=" then
          if f.isTarget then return some (← given l) else failure
        else return none
      let _ ← loop step f
      pure .plain
    else if ← skipsAny changeSigns then
      if !f.isSingle then failure
      let _ ← given l
      pure .plain
    else if ← skips ":" then
      if !f.isSingle then failure
      let _ ← l.expression
      if ← skips "=" then
        let _ ← given l
      pure .plain
    else
      match f with
      | .text s => pure (.text s)
      | _ => pure .plain

def dottedName : Parser Unit := do
  let _ ← chain name (skips ".")

/-- a name of its own for what is imported -/
def newName : Parser Unit := do
  if ← skips "as" then
    let _ ← name

def importNames : Parser Unit := do
  let _ ← chain (do dottedName; newName) (skips ",")

/-- what follows the word `from` -/
def importFrom : Parser Unit := do
  let dots ← loop (fun _ => do if ← skipsAny [".", "..."] then pure (some true) else pure none) false
  if !dots || !(← sees "import") then dottedName
  mark "import"
  let item : Parser Unit := do
    let _ ← name
    newName
  if ← skips "*" then pure ()
  else if ← skips "(" then
    let _ ← commas item
    mark ")"
  else
    let _ ← chain item (skips ",")

/-- a statement that has no block -/
def simple : Parser Statement := do
  let optional : Parser Unit := discard (maybe (values l))
  if ← skipsAny ["pass", "break", "continue"] then pure .plain
  else if ← skips "return" then
    optional
    pure .plain
  else if ← skips "import" then
    importNames
    pure .plain
  else if ← skips "from" then
    importFrom
    pure .plain
  else if ← skips "raise" then
    match ← maybe l.expression with
    | some _ =>
      if ← skips "from" then
        let _ ← l.expression
    | none => pure ()
    pure .plain
  else if ← skips "del" then
    let (fs, _) ← commas l.primary
    if !(Form.areDeletable fs) then failure
    pure .plain
  else if ← skips "assert" then
    let _ ← l.expression
    if ← skips "," then
      let _ ← l.expression
    pure .plain
  else if ← skipsAny ["global", "nonlocal"] then
    let _ ← chain name (skips ",")
    pure .plain
  else valueStatement l

def line : Parser (List Statement) := do
  let first ← simple l
  let step (st : List Statement × Bool) : Parser (Option (List Statement × Bool)) := do
    let (found, ended) := st
    if ended then return none
    if ← skips ";" then
      if (← upcoming) == some .newline then return some (found, true)
      return some ((← simple l) :: found, false)
    else return none
  let (found, _) ← loop step ([first], false)
  take .newline
  pure found.reverse

variable (s : Parser (List Statement))

/-- statements up to the end of an indent -/
def indented : Parser (List Statement) := do
  take .indent
  let first ← s
  let found ← loop (fun found => do
    if (← upcoming) == some .dedent then return none else return some ((← s).reverse ++ found)) first.reverse
  take .dedent
  pure found.reverse

/-- a block after its colon: the rest of the line, or an indent -/
def block : Parser (List Statement) := do
  mark ":"
  if (← upcoming) == some .newline then
    take .newline
    indented s
  else line l

def elseBlock : Parser (List Statement) := do
  if ← skips "else" then block l s else pure []

def classStatement (atLine : Nat) : Parser Statement := do
  let (n, _) ← name
  if ← skips "(" then Expression.arguments l.expression l.disjunction l.primary false
  pure (.classOf n atLine (← block l s))

def functionStatement (atLine : Nat) : Parser Statement := do
  let (n, _) ← name
  mark "("
  let ps ← Expression.parameters l.expression l.bitwise true ")"
  mark ")"
  if ← skips "->" then
    let _ ← l.expression
  pure (.function n atLine ps (← block l s))

/-- a condition's blocks after its keyword -/
def ifStatement : Parser Statement := do
  let branch : Parser (List Statement) := do
    let _ ← Expression.named l.expression
    block l s
  let found ← loop (fun found => do
    if ← skips "elif" then return some (found ++ (← branch)) else return none) (← branch)
  pure (.compound (found ++ (← elseBlock l s)))

/-- a loop over values after its keyword -/
def forStatement : Parser Statement := do
  Expression.targets l.primary
  mark "in"
  let _ ← values l
  let body ← block l s
  pure (.compound (body ++ (← elseBlock l s)))

def resource : Parser Unit := do
  let _ ← l.expression
  if ← skips "as" then
    let _ ← Expression.target l.primary

/-- a block with resources after its keyword; they may stand in brackets -/
def withStatement : Parser Statement := do
  let bracketed : Parser Unit := do
    mark "("
    let _ ← commas (resource l)
    mark ")"
    if !(← sees ":") then failure
  let _ ← (bracketed <|> discard (chain (resource l) (skips ",")))
  pure (.compound (← block l s))

/-- the handlers of a guarded block, all with a star or all without -/
def handlers : Parser (List Statement × Bool) := do
  let star : Parser Bool := ahead do
    mark "except"
    sees "*"
  match ← maybe star with
  | none => pure ([], false)
  | some starred =>
    let handler (found : List Statement) : Parser (Option (List Statement)) := do
      if !(← sees "except") then return none
      mark "except"
      if (← skips "*") != starred then failure
      if starred || !(← sees ":") then
        let _ ← l.expression
        if ← skips "as" then
          let _ ← name
      return some (found ++ (← block l s))
    let found ← loop handler []
    pure (found, true)

/-- a guarded block after its keyword -/
def tryStatement : Parser Statement := do
  let body ← block l s
  let (handled, any) ← handlers l s
  let otherwise ← if any then elseBlock l s else pure []
  let finished ← sees "finally"
  if !any && !finished then failure
  let last ← if ← skips "finally" then block l s else pure []
  pure (.compound (body ++ handled ++ otherwise ++ last))

/-- the head of a choice between cases, with the first indent -/
def matchHead : Parser Unit := do
  let (w, _) ← name
  if w != "match" then failure
  let (fs, any) ← commas (Expression.starNamed l.expression l.bitwise)
  match fs, any with
  | [.starred _], false => failure
  | _, _ => pure ()
  mark ":"
  take .newline
  take .indent

def caseBlock : Parser (List Statement) := do
  let (w, _) ← name
  if w != "case" then failure
  let texts := discard (Expression.texts l.expression l.disjunction l.bitwise l.primary)
  Case.patterns (Case.patternAt texts depthLimit)
  if ← skips "if" then
    let _ ← Expression.named l.expression
  block l s

/-- the cases of a choice after its head -/
def cases : Parser Statement := do
  let found ← loop (fun found => do
    if (← upcoming) == some .dedent then return none else return some (found ++ (← caseBlock l s))) (← caseBlock l s)
  take .dedent
  pure (.compound found)

/-- what may stand behind the word `async` -/
def asyncStatement (atLine : Nat) : Parser Statement := do
  if ← skips "def" then functionStatement l s atLine
  else if ← skips "for" then forStatement l s
  else
    mark "with"
    withStatement l s

/-- decorators, each on a line of its own, and what they decorate -/
def decorated : Parser Statement := do
  loop (fun _ => do
    if ← skips "@" then
      let _ ← Expression.named l.expression
      take .newline
      return some ()
    else return none) ()
  let atLine := (← get).head?.elim 0 (·.line)
  if ← skips "class" then classStatement l s atLine
  else if ← skips "def" then functionStatement l s atLine
  else
    mark "async"
    mark "def"
    functionStatement l s atLine

/-- one statement with a block, or the statements of one line -/
def statement : Parser (List Statement) := do
  let atLine := (← get).head?.elim 0 (·.line)
  let one (p : Parser Statement) : Parser (List Statement) := return [← p]
  if ← sees "@" then one (decorated l s)
  else if ← skips "class" then one (classStatement l s atLine)
  else if ← skips "def" then one (functionStatement l s atLine)
  else if ← skips "async" then one (asyncStatement l s atLine)
  else if ← skips "if" then one (ifStatement l s)
  else if ← skips "for" then one (forStatement l s)
  else if ← skips "while" then
    let _ ← Expression.named l.expression
    let body ← block l s
    return [.compound (body ++ (← elseBlock l s))]
  else if ← skips "with" then one (withStatement l s)
  else if ← skips "try" then one (tryStatement l s)
  else if (← upcoming) == some (.name "match") then
    match ← maybe (matchHead l) with
    | some _ => one (cases l s)
    | none => line l
  else line l

end

/-- the parser for statements that are nested at most so deep -/
def statementAt (l : Expression.Levels) : Nat → Parser (List Statement)
  | 0 => failure
  | n + 1 => statement l (statementAt l n)

end Block

def read (source : List Char) : Option (List Statement) := do
  let ts ← tokens source
  let step (found : List Statement) : Parser (Option (List Statement)) := do
    if (← upcoming) == some .finish then return none
    else return some ((← Block.statementAt expressionLevels depthLimit).reverse ++ found)
  let (found, _) ← (loop step []).run ts
  some found.reverse

end ChangeLint.Script
