/-
An interpreter to run with. It knows the names of ASCII alone, and counts its stack by rule of thumb: brackets that are nested,
and signs of one line of a script, each of which may stand for an operation inside another.
-/
import ChangeLint.Interpreter
import ChangeLint.Script.Block

namespace ChangeLint.Interpreter

/-- how deep the brackets of a text are nested at most, texts in quotes left out; `now` counts those that are open -/
def nesting (deepest now : Nat) (quoted : Bool) : List Char → Nat
  | [] => deepest
  | '\\' :: _ :: cs => nesting deepest now quoted cs
  | '"' :: cs => nesting deepest now (!quoted) cs
  | c :: cs =>
    if quoted then nesting deepest now quoted cs
    else if c = '(' || c = '[' || c = '\x7b' then nesting (max deepest (now + 1)) (now + 1) quoted cs
    else if c = ')' || c = ']' || c = '\x7d' then nesting deepest (now - 1) quoted cs
    else nesting deepest now quoted cs

/-- the most signs that one line has; `now` counts those of the line so far -/
def signsInLine (most now : Nat) : List Char → Nat
  | [] => max most now
  | c :: cs =>
    if c = '\n' then signsInLine (max most now) 0 cs
    else signsInLine most (if c = '+' || c = '-' then now + 1 else now) cs

/-- the depths at which a stack of the usual size is too small, by task -/
def Task.limit : Task → Nat
  | .payload => 950
  | .document => 450
  | .pattern => 250
  | .script => 480

/-- how deep the stack is for a text -/
def Task.weight : Task → List Char → Nat
  | .script, cs => signsInLine 0 0 cs
  | _, cs => nesting 0 0 false cs

/-- true of texts of data that are nested little -/
def isShallow (cs : List Char) : Bool :=
  match Json.read cs with
  | .ok d => d.depth ≤ shallow
  | .error _ => false

/-- true of the texts that any stack is large enough for -/
def Task.isLight (task : Task) (cs : List Char) : Bool :=
  task ≠ .script && (openings cs ≤ few || task = .payload && isShallow cs)

/-- what is said when the stack is too small -/
def tooDeep : String := "maximum recursion depth exceeded"

/-- what a datum was to be written for -/
def Form.occasion : Form → String
  | .literal => " while getting the repr of an object"
  | .json => " while encoding a JSON object"

/-- a parser for scripts; one with a null character is refused before it is read -/
def parseScript (cs : List Char) : Except Script.Refusal (List Script.Statement) :=
  if cs.contains '\x00' then .error .nul
  else match Script.read cs with
    | none => .error .malformed
    | some statements => .ok statements

theorem parseScript_of_read {cs : List Char} {statements : List Script.Statement} (hnul : '\x00' ∉ cs)
    (h : Script.read cs = some statements) : parseScript cs = .ok statements := by
  simp [parseScript, hnul, h]

/-- an interpreter with a stack of the usual size -/
@[reducible]
def usual : Interpreter where
  named? := Text.namedAscii?
  parse := parseScript
  overrun? task cs := if !task.isLight cs && task.limit < task.weight cs then some tooDeep else none
  unwritten? form d := if 950 < d.depth then some (tooDeep ++ form.occasion) else none
  parse_nul h := by simp [parseScript, h]
  payload_shallow h hd := by simp [Task.isLight, isShallow, h, hd]
  overrun_few htask h := by simp [Task.isLight, htask, h]
  unwritten_shallow h := if_neg (Nat.not_lt.2 (Nat.le_trans h (by decide)))

end ChangeLint.Interpreter
