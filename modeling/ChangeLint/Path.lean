/-
Paths with slashes. A path is a root (none, one slash or exactly two) and components; empty components and single dots
are dropped. Nothing here looks at a disk.

`parts` are root and components, `name` the last component, `suffix` its ending from the last point on, `join` a path
seen from another one.
-/
import ChangeLint.Text.Split

namespace ChangeLint.Path

/-- the root of a path: two slashes when it begins with exactly two, one when it begins with any other number -/
def root (cs : List Char) : String :=
  match cs with
  | '/' :: '/' :: '/' :: _ => "/"
  | '/' :: '/' :: _ => "//"
  | '/' :: _ => "/"
  | _ => ""

/-- the components of a path, without its root -/
def components (s : String) : List String :=
  ((Text.pieces '/' s.toList).filter fun p => !p.isEmpty && p != ['.']).map String.ofList

def parts (s : String) : List String :=
  let r := root s.toList
  if r = "" then components s else r :: components s

/-- the last component, empty for a bare root -/
def name (s : String) : String := (components s).getLastD ""

/-- the ending of the last component: from its last point on, unless that point is its first or last character -/
def suffix (s : String) : String :=
  match Text.splitLast? ['.'] (name s).toList with
  | some (before, after) => if before.isEmpty || after.isEmpty then "" else String.ofList ('.' :: after)
  | none => ""

/-- a path in its plain form; a path without components is a dot -/
def normal (s : String) : String :=
  let text := root s.toList ++ "/".intercalate (components s)
  if text = "" then "." else text

/-- a path seen from another one; an absolute path stands for itself -/
def join (base s : String) : String :=
  if root s.toList != "" then normal s else normal (base ++ "/" ++ s)

end ChangeLint.Path
