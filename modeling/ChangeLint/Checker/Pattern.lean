/-
The pattern by which a linter's output is read, and what it needs.
-/
import ChangeLint.Pattern.Reader

namespace ChangeLint.Checker.Formatter

/-- path, line, column and message between colons -/
def defaultPattern : String :=
  "^(?P<path>[^:\\n]+?):(?P<line>\\d+):(?P<column>\\d+):\\s*(?P<message>.+?)\\s*$"

/-- true of the patterns that tell a line and a message -/
def isUsable (p : Pattern) : Bool := (p.names.lookup "line").isSome && (p.names.lookup "message").isSome

end ChangeLint.Checker.Formatter
