/-
Why a text is no script, or cannot be looked through. Where it is malformed is not told.
-/
namespace ChangeLint.Script

/-- what is wrong with a text: a null character, anything that makes it no script, or that the interpreter gave up on it -/
inductive Refusal
  | nul
  | malformed
  | abandoned (kind text : String)
deriving DecidableEq, Repr

def Refusal.message : Refusal → String
  | .nul => "source code string cannot contain null bytes"
  | .malformed => "invalid syntax"
  | .abandoned _ text => text

end ChangeLint.Script
