/-
A terminal without colors, of a width. It reads the tags of markup and leaves them out, and draws tables with lines; a cell of a
table is refused as the same markup is elsewhere, the leftmost column first.
-/
import ChangeLint.Markup.Basic
import ChangeLint.Table

namespace ChangeLint.Terminal

/-- what markup shows -/
def shown (markup : String) : Except String (List Char) := (Markup.plain markup.toList).mapError Markup.Error.message

/-- rows with what their markup shows, the first column first -/
def shownRows (s : Sheet) : Except String (List (List (List Char))) := do
  let columns ← (List.range s.columns.length).mapM fun i => s.rows.mapM fun r => shown (r.getD i "")
  pure ((List.range s.rows.length).map fun i => columns.map fun c => c.getD i [])

def colorless (width : Nat) : Terminal where
  escape text := String.ofList (Markup.escape text.toList)
  lines markup := (shown markup).map fun cs => (Text.wrap ⟨.asIs, .fold, true⟩ width cs).map String.ofList
  table s := (shownRows s).map fun rows => ((Table.mk s.title s.columns rows).draw width).map String.ofList

end ChangeLint.Terminal
