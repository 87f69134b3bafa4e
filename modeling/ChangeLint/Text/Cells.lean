/-
Cells of a terminal that a text takes: most characters take one, wide ones two, and control characters and marks none.

`fit` brings a text to a number of cells: it is cut, or filled up with blanks; half of a wide character becomes a blank.
-/
import ChangeLint.Text.Ranges

namespace ChangeLint.Text

/-- the characters that take no cell of their own -/
def cellless : Ranges := Ranges.ofTable
  ["0 w 2n x d 1 gi 34 7n 7 7b 19 1 1 1 2 1 2 1 1 1k 6 a b 1 1 1a l g 1 2t 8 1 6 2 2 1 4 x 1 1 1 u r 2j b 1m 9 9",
   "1 o 4 1 9 1 3 1 5 17 3 1g 2 6 8 16 1m 1i 3 1 i 1 7 a 2 t 3 1k 1 1 7 2 2 2 3 9 1 a 2 q 1 2 3 1k 1 1 5 4 2 2 3",
   "3 1 u 2 3 1 b 3 1k 1 1 8 1 3 1 3 k 2 m 6 1 3 1k 1 1 7 2 2 2 3 7 3 a 2 u 1 1n 5 3 3 1 4 9 1 14 5 1j 1 1 7 1 3",
   "1 4 7 2 b 2 t 3 1k 1 1 7 1 3 1 4 7 2 b 2 f 1 c 4 1j 2 1 7 1 3 1 4 9 1 a 2 t 3 1y 1 4 6 1 1 1 8 i 2 1p 1 2 7",
   "c 8 2q 1 2 9 b 7 21 2 r 1 1 1 1 1 4 2 1d k 1 2 5 b 1 10 9 1 2s k n 4 4 3 1 3 2 7 3 4 d c 1 1 a 4 5e 4g 9p 3",
   "qa 4 s 3 t 2 u 2 1s w 9 1 19 5 39 2 y 1 3a c 4 c 63 5 1l a 1 t 2 1 1c v 1d 5 1b h 12 9 c 3 u d 1k e 1c k 48",
   "3 1 l 4 1 6 1 2 3 5i 1s ej 5 o 7 1d 5 1 a 2o x 2da 3 3x 1 2o w fe 6 2x 2 n9w 4 1 a w 2 28 2 7k 1 3 1 4 1 n 5",
   "4 1 2b 2 1e i q i d 1 12 8 p d 18 4 1b e 10 1 1v e c 1 8 2 19 3 1e 1 1 3 2 2 5 2 1 1 15 5 5 2 6k 8 1 2 8n6 n",
   "4 1d 6xu 1 kh g g g 5r 1 6x 3 e9 1 6a 1 45 5 1ae 3 1 2 5 4 14 3 4 1 4l 2 fx 4 ar 2 28 3 1y b 1d 4 3e 3 1h f",
   "15 1 2 2 a 4 19 b 2 1 4 1 a 1 1e 3 10 e g 2 18 1 c 3 1c e 8 4 1 2 2k c 6 1 2 1 4d c l 4 1j 2 1 7 2 2 2 3 9 1",
   "a 2 2 7 3 5 5c i n 1 29 k 6j 7 2 9 r 2 2a h 2y d 2t f 74 f 6t 6 1 2 2 4 1 1 1 2 3x 7 2 7 3 1 s a 14 7 1 4 8",
   "1 9 b 1a g b9 8 1 8 2a m 1 e 3e 6 3 1 1 2 1 7 1 1 1u 5 1 2 1 5 9n 4 9 2 1 1 1c 7 3 5 44t h 6 f asa 5 1n 7 t4",
   "1 1 1j 7 4 29 1 b 2 f57 2 1 4 3mk 1a 2 n f2 5 3 m 2 7 u 4 44 3 1iz 1j 4 1e 8 1 e 1 m 5 1 f 11s 7 1 h 2 7 1 2",
   "1 5 2s 1 4g 7 af 1 1p 4 e4 4 rk 7 31 7 gzau 1 u 2o 3k 6o"]

/-- the characters that take two cells -/
def wide : Ranges := Ranges.ofTable
  ["3cw 2o 3i2 2 d 2 5a 4 3 1 2 1 eh 2 l 2 1e c 17 1 j 1 d 1 8 2 h 2 5 2 8 1 5 1 l 1 7 2 1 1 4 1 2 1 7 1 4 2 s 1",
   "z 1 1 1 4 3 1 1 1p 3 o 1 e 1 nv 2 1f 1 4 1 mi q 1 2h c 5y q 1m 6 f 2 2e 4 2t 5 17 1 2m 1 2c b 1c 1 14 8 5f4",
   "1s h3h 3 1j wp t hv 8mc 6l8 e8 ls a m z 1 j 1 4 45 2o 3j 7 m49 4 s 4qg 8 ye 16 9 6w7 4 1 7 1 2 1 83 f 1 t 3",
   "2 1 e 4 8 b0 c20 1 5m 1 5a 1 2 a 2t 3 d 18 4 9 7 2 e 6 4a x c 9 1 1y 1 m c 17 4 5 c h 3 1 3 1z 1 1 1 57 2 1r",
   "d 4 1 o i 1 q 2 d 1 2e 2d 1c 1y 6 1 3 3 2 3 4 4 b 2 7 9 6b c 4 1 7v 1b 1 a 1 55 34 d 3 9 7 1a 1 7 8 e 4 9 7",
   "9 zr 1eke 2 1eke"]

/-- the cells that a character takes -/
def cellWidth (c : Char) : Nat :=
  if 0x20 ≤ c.toNat && c.toNat < 0x7F then 1
  else if cellless.has c then 0
  else if wide.has c then 2
  else 1

def total (ns : List Nat) : Nat := ns.foldr (fun n m => n + m) 0

def cells (cs : List Char) : Nat := total (cs.map cellWidth)

def blanks (n : Nat) : List Char := List.replicate n ' '

/-- a beginning of a text that takes a number of cells, which is less than all of it takes; it is sought by halving, so that
it may or may not have the marks that follow it -/
def beginning (cs : List Char) (total : Nat) (fuel start stop : Nat) : List Char :=
  match fuel with
  | 0 => cs.take start
  | fuel + 1 =>
    let pos := (start + stop) / 2
    let before := cs.take (pos + 1)
    let size := cells before
    if size = total + 1 && (before.getLast?.map cellWidth) = some 2 then before.dropLast ++ [' ']
    else if size = total then before
    else if total < size then beginning cs total fuel start pos
    else beginning cs total fuel pos stop

/-- a text brought to a number of cells -/
def fit (cs : List Char) (total : Nat) : List Char :=
  let size := cells cs
  if size ≤ total then cs ++ blanks (total - size)
  else if total = 0 then []
  else beginning cs total (cs.length + 1) 0 cs.length

/-- a text in pieces that take at most so many cells -/
def folded (width : Nat) (cs : List Char) : List (List Char) :=
  let step (st : List (List Char) × List Char × Nat) (c : Char) : List (List Char) × List Char × Nat :=
    let (done, line, size) := st
    if width < size + cellWidth c then (line.reverse :: done, [c], cellWidth c) else (done, c :: line, size + cellWidth c)
  let (done, line, _) := cs.foldl step ([], [], 0)
  (line.reverse :: done).reverse

end ChangeLint.Text
