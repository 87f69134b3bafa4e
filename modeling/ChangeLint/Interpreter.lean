/-
What is left to the interpreter that a run happens in: which characters have which names, what it makes of the text of a
script, and when it gives up a task because its stack is too small.

A stack depends on the interpreter's limits and on who calls. All that is known of it is that it is large enough for what
is nested little.
-/
import ChangeLint.Json.Reader
import ChangeLint.Script.Refusal
import ChangeLint.Script.Statement

namespace ChangeLint

namespace Datum

mutual

/-- how deep lists and tables are nested in a datum -/
def depth : Datum → Nat
  | .list items => itemsDepth items + 1
  | .table members => membersDepth members + 1
  | .brokenTable members => brokenDepth members + 1
  | _ => 0

def itemsDepth : List Datum → Nat
  | [] => 0
  | d :: ds => max (depth d) (itemsDepth ds)

def membersDepth : List (String × Datum) → Nat
  | [] => 0
  | (_, d) :: ms => max (depth d) (membersDepth ms)

def brokenDepth : List (List Text.Sign × Datum) → Nat
  | [] => 0
  | (_, d) :: ms => max (depth d) (brokenDepth ms)

end

end Datum

namespace Interpreter

/-- the tasks that take more of the stack when a text is nested deeper: reading the findings of a payload, a document or a
pattern, and looking through a script -/
inductive Task
  | payload
  | document
  | pattern
  | script
deriving DecidableEq, Repr

/-- the ways to write out a datum -/
inductive Form
  | literal
  | json
deriving DecidableEq, Repr

/-- the depth of nesting for which any stack is large enough -/
def shallow : Nat := 8

/-- the number of opening brackets for which any stack is large enough -/
def few : Nat := 64

/-- the number of opening brackets in a text -/
def openings (cs : List Char) : Nat := cs.countP fun c => c = '(' || c = '[' || c = '\x7b'

end Interpreter

open Interpreter in
/-- an interpreter: the characters by name, its parser for scripts, and what it says when its stack is too small for a task or
for writing out a datum -/
class Interpreter where
  named? : String → Option Char
  parse : List Char → Except Script.Refusal (List Script.Statement)
  overrun? : Task → List Char → Option String
  unwritten? : Form → Datum → Option String
  parse_nul : ∀ {cs : List Char}, '\x00' ∈ cs → parse cs = .error .nul
  payload_shallow : ∀ {cs : List Char} {d : Datum}, Json.read cs = .ok d → d.depth ≤ shallow → overrun? .payload cs = none
  overrun_few : ∀ {task : Task} {cs : List Char}, task ≠ .script → openings cs ≤ few → overrun? task cs = none
  unwritten_shallow : ∀ {form : Form} {d : Datum}, d.depth ≤ shallow → unwritten? form d = none

end ChangeLint
