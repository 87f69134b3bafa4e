/-
Log entries: what an action reports on its way, apart from its result.
-/
namespace ChangeLint

/-- how much an entry matters, in increasing order -/
inductive Level
  | debug
  | info
  | warning
  | error
deriving DecidableEq, Repr

def Level.rank : Level → Nat
  | .debug => 10
  | .info => 20
  | .warning => 30
  | .error => 40

structure Entry where
  level : Level
  text : String
deriving DecidableEq, Repr

/-- true of entries of a level and above -/
def Entry.isKept (threshold : Level) (e : Entry) : Bool := threshold.rank ≤ e.level.rank

def Entry.atLeast (threshold : Level) (log : List Entry) : List Entry := log.filter (Entry.isKept threshold)

/-- the channel that all entries of this program go through -/
def Log.root : String := "code_styler"

/-- the channel of a part of the program, below the one for all -/
def Log.channel (name : Option String) : String :=
  match name with
  | none => Log.root
  | some n => if Log.root.toList.isPrefixOf n.toList then n else Log.root ++ "." ++ n

/-- the least level that is logged: only errors when quiet, which wins, and all when verbose -/
def Log.threshold (verbose quiet : Bool) : Level :=
  if quiet then .error else if verbose then .debug else .info

end ChangeLint
