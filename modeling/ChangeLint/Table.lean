/-
Tables drawn with lines: a title over a header and rows. A column is as wide as its widest cell, with a blank on each side;
when that is more than there is room for, first the widest of the columns that wrap are made narrower, then all of them.

`measure` finds the widths, `draw` the lines.
-/
import ChangeLint.Number.Binary64
import ChangeLint.Terminal
import ChangeLint.Text.Wrap

namespace ChangeLint

/-- a table of texts as they are shown, each row having a cell for every column -/
structure Table where
  title : String
  columns : List Column
  rows : List (List (List Char))
deriving Repr

namespace Table

/-- the lines of a border: left end, line, divider, right end -/
structure Border where
  left : Char
  line : Char
  divider : Char
  right : Char
deriving DecidableEq, Repr

/-- the borders of a table: heavy around the header, light around the rows -/
def top : Border := ⟨'┏', '━', '┳', '┓'⟩
def underHeader : Border := ⟨'┡', '━', '╇', '┩'⟩
def bottom : Border := ⟨'└', '─', '┴', '┘'⟩
def headerDivider : Char := '┃'
def rowDivider : Char := '│'

/-- the blanks on each side of a cell -/
def padding : Nat := 2

def cellsOf (t : Table) (i : Nat) (c : Column) : List (List Char) :=
  c.header.toList :: t.rows.map fun r => r.getD i []

/-- true of characters that end a line -/
def endsLine (c : Char) : Bool :=
  c = '\n' || ('\x1c' ≤ c && c ≤ '\x1e') || c = '\u0085' || c = '\u2028' || c = '\u2029'

/-- the cells that the widest line of a text takes -/
def textWidth (cs : List Char) : Nat :=
  let step (st : Nat × Nat) (c : Char) : Nat × Nat :=
    if endsLine c then (max st.1 st.2, 0) else (st.1, st.2 + Text.cellWidth c)
  let (widest, last) := cs.foldl step (0, 0)
  max widest last

/-- the width of a cell with its blanks, at most so much -/
def cellWidth (room : Nat) (cs : List Char) : Nat :=
  if room < padding + 1 then room else min (textWidth cs + padding) room

/-- the width of a column, at most so much -/
def columnWidth (room : Nat) (cells : List (List Char)) : Nat := (cells.map (cellWidth room)).foldl max 0

/-- numbers made smaller by a total, which those that are chosen share; none of them loses more than a limit -/
def reduce (total : Nat) (limit : Nat → Nat) (shares : Nat) : List (Nat × Bool) → List Nat
  | [] => []
  | (n, chosen) :: more =>
    if chosen && 0 < limit n && 0 < shares then
      let loss := min (limit n) (Binary64.divRound total shares)
      (n - loss) :: reduce (total - loss) limit (shares - 1) more
    else n :: reduce total limit shares more

/-- how many of some numbers are chosen and may lose something -/
def sharesOf (limit : Nat → Nat) (ns : List (Nat × Bool)) : Nat := ns.countP fun n => n.2 && 0 < limit n.1

/-- widths after the widest of the columns that wrap have been made narrower, step by step -/
def collapse (fuel room : Nat) (wraps : List Bool) (widths : List Nat) : List Nat :=
  match fuel with
  | 0 => widths
  | fuel + 1 =>
    if Text.total widths ≤ room || Text.total widths = 0 then widths
    else
      let excess := Text.total widths - room
      let wrapping := ((widths.zip wraps).filter (·.2)).map (·.1)
      let widest := wrapping.foldl max 0
      let second := (wrapping.filter (· != widest)).foldl max 0
      if wrapping.isEmpty || widest = second then widths
      else
        let chosen := (widths.zip wraps).map fun w => (w.1, w.2 && w.1 = widest)
        let limit (_ : Nat) : Nat := min excess (widest - second)
        collapse fuel room wraps (reduce excess limit (sharesOf limit chosen) chosen)

/-- the cells that borders and dividers take -/
def frame (t : Table) : Nat := 2 + (t.columns.length - 1)

/-- the widths of all columns in a terminal of a width -/
def measure (t : Table) (width : Nat) : List Nat :=
  let room := width - t.frame
  let columns := t.columns.mapIdx fun i c => t.cellsOf i c
  let widths := columns.map fun cells => max 1 (columnWidth room cells)
  if Text.total widths ≤ room then widths
  else
    let narrowed := collapse (Text.total widths + 1) room (t.columns.map (·.wraps)) widths
    let all := narrowed.map fun n => (n, true)
    let last := if room < Text.total narrowed then reduce (Text.total narrowed - room) id (sharesOf id all) all else narrowed
    (columns.zip last).map fun (cells, n) => columnWidth n cells

def border (b : Border) (widths : List Nat) : List Char :=
  b.left :: [b.divider].intercalate (widths.map fun n => List.replicate n b.line) ++ [b.right]

def cellLines (c : Column) (width : Nat) (cs : List Char) : List (List Char) :=
  if width ≤ padding then []
  else
    let inner := width - padding
    (Text.wrap ⟨.left, .ellipsis, c.wraps⟩ inner cs).map fun l => ' ' :: Text.fit l inner ++ [' ']

/-- the lines of a row: every cell is filled up to the height of the highest one -/
def rowLines (divider : Char) (columns : List Column) (widths : List Nat) (cells : List (List Char)) : List (List Char) :=
  let parts := (columns.zip (widths.zip cells)).map fun (c, n, cs) => (n, cellLines c n cs)
  let height := (parts.map (·.2.length)).foldl max 1
  (List.range height).map fun i =>
    divider :: [divider].intercalate (parts.map fun (n, ls) => Text.fit (ls.getD i []) n) ++ [divider]

/-- the lines of a table in a terminal of a width; what sticks out is cut -/
def draw (t : Table) (width : Nat) : List (List Char) :=
  let widths := t.measure width
  let whole := Text.total widths + t.frame
  let title := Text.wrap ⟨.center, .fold, true⟩ whole t.title.toList
  let header := rowLines headerDivider t.columns widths (t.columns.map fun c => c.header.toList)
  let rows := t.rows.flatMap (rowLines rowDivider t.columns widths)
  let all := title ++ [border top widths] ++ header ++ [border underHeader widths] ++ rows ++ [border bottom widths]
  all.map fun l => if width < Text.cells l then Text.fit l width else l

end Table

end ChangeLint
