/-
What a script leaves undocumented: public classes and functions without a text of their own, and parameters of a public
function that its text does not mention. A name is public unless it begins with an underscore.

A text is tidied before it is looked into: tabs become blanks, and the margin that its lines have in common is taken away.

Statements outside of classes and functions are looked into to any depth; of a class only the classes and functions that
stand directly in it, and nothing in a function.
-/
import ChangeLint.Interpreter
import ChangeLint.Text.Blank
import ChangeLint.Text.Split

namespace ChangeLint.Script

/-- true of names that do not begin with an underscore -/
def isPublic (name : String) : Bool := name.toList.head? != some '_'

/-- the number of columns from one stop of a tab to the next -/
def tabWidth : Nat := 8

/-- a text with blanks in place of its tabs; `column` is the one that has been reached -/
def expandTabs (column : Nat) : List Char → List Char
  | [] => []
  | c :: cs =>
    if c = '\t' then
      let width := tabWidth - column % tabWidth
      List.replicate width ' ' ++ expandTabs (column + width) cs
    else c :: expandTabs (if c = '\n' || c = '\r' then 0 else column + 1) cs

/-- how far a line is set in, unless it is blank -/
def indent? (line : List Char) : Option Nat :=
  if line.all Text.isBlank then none else some (line.takeWhile Text.isBlank).length

/-- how far all lines are set in that are not blank -/
def margin (lines : List (List Char)) : Nat := (lines.filterMap indent?).min?.getD 0

/-- lines without their margin; the first one has a margin of its own -/
def flushLines : List (List Char) → List (List Char)
  | [] => []
  | first :: more => Text.trimStart Text.isBlank first :: more.map (·.drop (margin more))

/-- lines without the empty ones at both ends -/
def trimLines (lines : List (List Char)) : List (List Char) :=
  (lines.reverse.dropWhile List.isEmpty).reverse.dropWhile List.isEmpty

/-- a text without its tabs, its margin and the empty lines around it -/
def tidied (text : List Char) : List Char :=
  ['\n'].intercalate (trimLines (flushLines (Text.pieces '\n' (expandTabs 0 text))))

/-- the text that documents a body: a text that stands alone as its first statement -/
def documentation? : List Statement → Option (List Char)
  | .text s :: _ => some (tidied s)
  | _ => none

/-- the parameters that need no documentation -/
def impliedParameters : List String := ["self", "cls"]

/-- the parameters that a text leaves out -/
def omitted (text : List Char) (ps : List Parameter) : List Parameter :=
  ps.filter fun p => !impliedParameters.contains p.name && !Text.occurs p.name.toList text

abbrev Remark := Nat × String

def functionRemarks (name : String) (line : Nat) (ps : Parameters) (body : List Statement) : List Remark :=
  match documentation? body with
  | none => [(line, "Public function \"" ++ name ++ "\" has no docstring")]
  | some text => (omitted text ps.all).map fun p =>
      (p.line, "Parameter \"" ++ p.name ++ "\" of public function \"" ++ name ++ "\" is not documented")

mutual

/-- the remarks on a statement; `inClass` when it stands directly in a class -/
def remarks (inClass : Bool) : Statement → List Remark
  | .classOf name line body =>
    if isPublic name then
      (if (documentation? body).isSome then [] else [(line, "Public class \"" ++ name ++ "\" has no docstring")]) ++
        remarksOnAll true body
    else []
  | .function name line ps body => if isPublic name then functionRemarks name line ps body else []
  | .compound inner => if inClass then [] else remarksOnAll inClass inner
  | .text _ | .plain => []

def remarksOnAll (inClass : Bool) : List Statement → List Remark
  | [] => []
  | s :: ss => remarks inClass s ++ remarksOnAll inClass ss

end

/-- true when a remark comes before or at another: by line, then by text -/
def Remark.le (a b : Remark) : Bool := a.1 < b.1 || (a.1 = b.1 && a.2 ≤ b.2)

/-- what a script leaves undocumented, in order, if the stack is large enough for looking through it -/
def undocumented [Interpreter] (source : List Char) : Except Refusal (List Remark) :=
  match Interpreter.parse source with
  | .error r => .error r
  | .ok statements => match Interpreter.overrun? .script source with
    | some m => .error (.abandoned "RecursionError" m)
    | none => .ok ((remarksOnAll false statements).mergeSort Remark.le)

end ChangeLint.Script
