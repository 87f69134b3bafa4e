/-
Spans of time as they are given in settings and by callers: whole numbers of seconds, or reals.
-/
import ChangeLint.Datum
import ChangeLint.Failure

namespace ChangeLint

/-- a span of seconds, whole or not -/
inductive Seconds
  | whole (n : Int)
  | real (x : Binary64)
deriving DecidableEq, Repr

namespace Seconds

def datum : Seconds → Datum
  | .whole n => .int n
  | .real x => .real x

/-- true of spans before zero -/
def isNegative : Seconds → Bool
  | .whole n => n < 0
  | .real x => x < 0

/-- a span as a real; whole spans beyond the greatest real have none -/
def toReal : Seconds → Except Failure Binary64
  | .real x => .ok x
  | .whole n =>
    match Binary64.ofInt n with
    | .infinite _ => .error .beyondReals
    | x => .ok x

end Seconds

end ChangeLint
