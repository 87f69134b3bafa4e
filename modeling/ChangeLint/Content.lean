/-
Contents of files, as they are found at a path: bytes, or the reason why there are none.
-/
import ChangeLint.Text.Quoted

namespace ChangeLint

/-- why a path leads to no bytes -/
inductive Content.Problem
  | notFound
  | notADirectory
  | isADirectory
  | denied
  | nameTooLong
deriving DecidableEq, Repr

/-- the number of a problem and the words for it -/
def Content.Problem.code : Content.Problem → Nat × String
  | .notFound => (2, "No such file or directory")
  | .notADirectory => (20, "Not a directory")
  | .isADirectory => (21, "Is a directory")
  | .denied => (13, "Permission denied")
  | .nameTooLong => (36, "File name too long")

/-- the problem with a path in words -/
def Content.Problem.message (p : Content.Problem) (path : String) : String :=
  s!"[Errno {p.code.1}] " ++ p.code.2 ++ ": " ++ Text.quote path

/-- what is found at a path -/
inductive Content
  | bytes (b : List UInt8)
  | problem (p : Content.Problem)
deriving DecidableEq, Repr

/-- true when there is something at a path, be it a directory -/
def Content.isPresent : Content → Bool
  | .problem .notFound => false
  | .problem .notADirectory => false
  | _ => true

abbrev Files := String → Content

end ChangeLint
