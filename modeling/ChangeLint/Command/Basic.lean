/-
Commands: programs that are run in the directory of a project. How a command ends depends on its arguments alone;
`Commands` knows the answers, and running a command leaves it in the trace.
-/
import ChangeLint.Act

namespace ChangeLint

/-- the answers of commands: the whole output, or the lines of it -/
structure Commands where
  output : List String → Except Failure String
  lines : List String → Except Failure (List String)

namespace Commands

def run (c : Commands) (argv : List String) : Act String := ⟨[.command argv], c.output argv⟩

def stream (c : Commands) (argv : List String) : Act (List String) := ⟨[.command argv], c.lines argv⟩

end Commands

end ChangeLint
