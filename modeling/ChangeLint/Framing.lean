/-
Framing: records in one text, each followed by a delimiter, so that a record may hold line breaks. A shell may leave a
line break after a delimiter; one is dropped from the front of each record. Empty records do not count.

`records` takes a framed text apart, `frameLines` frames the lines of a text.
-/
import ChangeLint.Text.Split

namespace ChangeLint.Framing

/-- what ends each record, without its first character -/
def delimiterTail : List Char := "delimiter@".toList

/-- what ends each record -/
def delimiter : List Char := '@' :: delimiterTail

/-- a record without the line break that may stand in front of it -/
def dropBreak : List Char → List Char
  | '\r' :: '\n' :: cs => cs
  | '\n' :: cs => cs
  | cs => cs

/-- the records of a framed text, as characters -/
def recordsOf (cs : List Char) : List (List Char) :=
  ((Text.cut '@' delimiterTail cs).map dropBreak).filter fun r => !r.isEmpty

def records (s : String) : List String := (recordsOf s.toList).map String.ofList

/-- the lines of a text; a line break at the end ends the last line -/
def linesOf (cs : List Char) : List (List Char) :=
  let ls := Text.pieces '\n' cs
  if ls.getLast? = some [] then ls.dropLast else ls

def frameLines (s : String) : String := String.ofList ((linesOf s.toList).flatMap (· ++ delimiter))

end ChangeLint.Framing
