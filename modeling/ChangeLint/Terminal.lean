/-
The terminal that reports are shown in, as far as they need one: it reads markup, breaks what that shows into lines, and draws
tables. A terminal is a program of its own, so this is only what it offers; a report works with any.

`Terminal.Lawful` says what is relied on: texts are escaped so that they are never refused, tags of a style around a text that
holds none are read whatever follows them, and a table is drawn unless the markup of a cell is refused.
-/
namespace ChangeLint

/-- a column of a table: its header, the style of its cells, and whether they are broken into lines -/
structure Column where
  header : String
  style : Option String
  wraps : Bool
deriving DecidableEq, Repr

/-- a table to be drawn: each row has a cell of markup for every column -/
structure Sheet where
  title : String
  columns : List Column
  rows : List (List String)
deriving DecidableEq, Repr

/-- a terminal: how it escapes a text, and the lines that it shows markup and tables in, or why it refuses them -/
structure Terminal where
  escape : String → String
  lines : String → Except String (List String)
  table : Sheet → Except String (List String)

namespace Terminal

/-- a text between the tags of a style -/
def styled (style text : String) : String := "[" ++ style ++ "]" ++ text ++ "[/" ++ style ++ "]"

/-- markup that is not refused -/
def Accepts (t : Terminal) (markup : String) : Prop := ∃ ls, t.lines markup = .ok ls

/-- true of texts that no tag and no escape begins in -/
def IsBare (text : String) : Prop := ∀ c ∈ text.toList, c ∉ ['[', '\\']

/-- true of names of styles: words of small letters -/
structure IsStyle (style : String) : Prop where
  nonempty : style ≠ ""
  letters : ∀ c ∈ style.toList, ('a' ≤ c ∧ c ≤ 'z') ∨ c = ' '
  begins : style.toList.head? ≠ some ' '
  ends : style.toList.getLast? ≠ some ' '

instance : DecidablePred IsBare := fun text => List.decidableBAll (fun c => c ∉ ['[', '\\']) text.toList

instance : DecidablePred IsStyle := fun style =>
  have := List.decidableBAll (fun c => ('a' ≤ c ∧ c ≤ 'z') ∨ c = ' ') style.toList
  decidable_of_iff (style ≠ "" ∧ (∀ c ∈ style.toList, ('a' ≤ c ∧ c ≤ 'z') ∨ c = ' ') ∧ style.toList.head? ≠ some ' ' ∧
    style.toList.getLast? ≠ some ' ')
    ⟨fun ⟨hnonempty, hletters, hbegins, hends⟩ => ⟨hnonempty, hletters, hbegins, hends⟩,
      fun h => ⟨h.nonempty, h.letters, h.begins, h.ends⟩⟩

/-- a table with a cell for every column, whose title and headers are bare -/
structure IsRegular (s : Sheet) : Prop where
  title : IsBare s.title
  headers : ∀ c ∈ s.columns, IsBare c.header
  rows : ∀ row ∈ s.rows, row.length = s.columns.length

/-- what reports rely on -/
structure Lawful (t : Terminal) : Prop where
  /-- nothing is accepted, and a bare text may stand before anything -/
  nothing : t.Accepts ""
  bare : ∀ text rest, IsBare text → t.Accepts rest → t.Accepts (text ++ rest)
  /-- so may a bare text in a style -/
  styled : ∀ style text rest, IsStyle style → IsBare text → t.Accepts rest → t.Accepts (styled style text ++ rest)
  /-- an escaped text is markup that shows the text, also in a style -/
  escaped : ∀ text, t.Accepts (t.escape text)
  enclosed : ∀ style before text, IsStyle style → IsBare before →
    t.Accepts (Terminal.styled style (before ++ t.escape text))
  /-- a table is refused for the markup of its cells only -/
  table : ∀ s, IsRegular s → ((∃ ls, t.table s = .ok ls) ↔ ∀ row ∈ s.rows, ∀ cell ∈ row, t.Accepts cell)

end Terminal

end ChangeLint
