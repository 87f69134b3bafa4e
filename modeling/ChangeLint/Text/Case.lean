/-
Lower case for all scripts. Most capitals have one small letter; the dotted capital I becomes two characters, and a
capital sigma at the end of a word becomes a final sigma: one with a cased letter before it and none after it, characters
that case ignores apart.
-/
import ChangeLint.Text.Ranges

namespace ChangeLint.Text

def cased : Ranges := Ranges.ofTable
  ["1t q 6 q 1b 1 a 1 4 1 5 n 1 v 1 5f 1 4 4 5s 1 10 7 2 u 5 2o 1 16 4 2 2 2 4 1 1 6 1 1 3 1 1 1 k 1 2b 1 3v 8",
   "4m 1 12 9 15 26v 12 1 1 5 1 2 17 2 3 io 2e 2 6 1oi 9 7 17 2 3 1s 5c 1s 7q 2 6 2 12 2 6 2 8 1 1 1 1 1 1 1 v 2",
   "1h 1 7 1 1 3 3 1 7 3 4 2 6 4 d 5 3 1 7 38 1 d 1 g d 2t 1 4 1 2 a 1 1 3 5 6 1 1 1 1 1 1 4 1 6 4 1 2 4 5 5 4 1",
   "h w 3 2 mp 1g 1ee 6d 6 4 3 2 c 12 1 1 5 1 nwy 1a i u 3o 2u 3 4 1 1n 5 2 1 1 1 5 r 2 1 3 mt 17 1 d 7 28 fnk 7",
   "c 5 sp q 6 q x1 28 2o 10 4 10 38 b 1 f 1 7 1 2 1 b 1 f 1 7 1 2 cj 1 2 3 1 16 1 9 xx 1f d 1f 2b1 1s gv4 1s",
   "k1s 2d 1 1z 1 2 2 1 2 2 2 4 1 c 1 1 1 7 1 1t 1 4 2 8 1 7 1 s 1 4 1 5 1 1 3 7 1 9g 2 p 1 p 1 v 1 p 1 v 1 p 1",
   "v 1 p 1 v 1 p 1 8 1f8 a 1 k 1y9 1w 1kc q 6 q 6 q"]

def caseIgnorable : Ranges := Ranges.ofTable
  ["13 1 6 1 b 1 z 1 1 1 1z 1 4 1 1 1 4 1 2 2 dz 5c 4 2 4 1 9 2 1 1 6z 7 5r 1 5 1 1d 19 1 1 1 2 1 2 1 1 18 1 b 6",
   "a b 1 1 z 1 a l g 1 2t 8 1 a 1 4 x 1 1 1 u r 2j b 1m b 4 1 2 1 o o 17 3 18 1 7 2 6 8 15 1m 1j 1 1 1 4 8 4 1",
   "3 7 a 2 d 1 f 1 1m 1 4 4 8 1 k 2 q 1 2 2 1l 1 4 2 4 2 2 3 3 1 u 2 3 1 b 2 1l 1 4 5 1 2 4 1 k 2 m 6 1 1 1m 1",
   "2 1 1 4 8 1 7 2 b 2 u 1 1p 1 c 1 1e 1 3 1 1j 1 1 3 5 3 1 4 7 2 b 2 t 1 1m 1 2 1 6 1 5 2 k 2 s 2 1l 2 4 4 8 1",
   "k 2 t 1 20 1 7 3 1 1 2i 1 2 7 b 9 2q 1 2 9 9 1 1 6 22 2 r 1 1 1 1 1 1j e 1 5 1 2 5 b 1 10 9 1 2u 4 1 6 1 2 2",
   "2 p 2 4 3 g 4 d 1 2 2 6 1 f 1 2m 1 gw 3 qa 3 t 2 u 2 u 2 1s 2 1 7 8 1 2 b 3 1 5 1 19 5 1f 1 1t 2 y 1 3a 3 4",
   "2 9 1 6 3 63 2 2 1 1m 1 1 7 1 1 1 1 2 8 6 a 2 1 13 1 8 v 1d 4 1c 1 1 5 1 1 5 1 14 9 c 2 w 4 2 2 1 3 1k 1 1 2",
   "3 1 1 3 1m 8 2 2 1s 6 2a 3 1 d 1 7 4 1 6 1 3 2 1e 1r d 1 y 2t cd 1 1 3 b 3 d 3 d 3 d 2 c 5 8 2 a 1 2 1 2 5",
   "1d 5 1 a 1 1 d 1 g d 1f x 2a3 2 35 3 3h 1 f 1 2o w 1b 1 d1 1 10 4 3 5 5 1 2l 6 2l 3 lxy 1 yq 6 7i 1 2q 4 1 a",
   "1 1 s 4 28 2 e y 26 1 n 3 2v 3 3 2 8 1 3 1 4 1 p 2 5 1 47 2 q i d 1 12 8 p b 1a 3 1c 1 2 4 2 2 h 1 l 2 1u 6",
   "2 2 2 2 c 1 8 1 z 1 b 1 1f 1 1 3 2 2 5 2 1 1 r 1 e 2 5 2 1 1 2s 5 9 3 3d 1 2 1 4 1 fn4 1 43 h fx g 3 1 c g y",
   "1 2 1 4p 1 7 1 6 1 b 1 z 1 1 1 1b 1 19 2 1v 1 l 3 e9 1 6a 1 45 5 sl 6 1 16 1 9 g6 3 1 2 5 4 14 3 4 1 4l 2 fx",
   "4 ar 2 49 b 1d 4 3f 1 1i f 15 1 2 2 a 3 1d 4 2 2 2 1 4 1 a 1 1e 3 10 5 1 8 1q 1 c 2 1g 9 a 4 2 1 2n 3 2 1 1",
   "2 6 1 4g 1 3 8 l 2 1l 2 3 1 11 7 3 5 5f 8 2 3 1 1 n 1 2c 6 1 1 4 2 1 2 6m 4 6 2 1 2 r 2 2d 8 2 1 1 2 2y 1 1",
   "1 2 6 1 1 2t 3 2 4 1 5 77 9 1 2 74 2 1 1 4 1 40 4 2 2 4 1 w a 14 6 2 4 8 1 9 6 2 3 1a d 1 2 ba 7 1 6 1 1 2a",
   "m 2 7 1 2 1 2 3e 6 3 1 1 2 1 7 1 1 20 2 3 1 1 1 9n 2 46z 9 at3 5 1n 7 9 4 sr 1 1r h 1s 2 1 2 cnf 4 1 7 1 2",
   "2hq 2 1 4 3mk 1a 2 n f4 3 9 g 2 7 u 4 44 3 1iz 1j 4 1e 8 1 e 1 m 5 1 f 11s 7 1 h 2 7 1 2 1 5 79 e a8 1 1p 4",
   "15s 7 31 8 23z 5 gx6p 1 u 2o 3k 6o"]

/-- capitals beyond ASCII in runs of four numbers: distance from the run before, count, step, and twice the shift to the
small letters (odd for a shift to the left) -/
def capitalTable : List String :=
  ["5c n 1 1s o 7 1 1s 14 o 2 2 1e 3 2 2 7 8 2 2 h n 2 2 1a 1 1 6p 1 3 2 2 8 1 1 bo 1 2 2 2 4 1 1 bg 1 1 1 2 2 2",
   "1 be 2 1 1 2 3 1 1 4e 1 1 1 b8 1 1 1 ba 1 1 1 2 2 1 1 be 1 1 1 bi 2 1 1 bq 1 1 1 bm 1 1 1 2 4 1 1 bq 1 1 1",
   "bu 2 1 1 bw 1 3 2 2 6 1 1 c4 1 1 1 2 2 1 1 c4 3 1 1 2 2 1 1 c4 1 1 1 2 2 2 1 c2 2 2 2 2 4 1 1 c6 1 1 1 2 4 1",
   "1 2 8 1 1 4 1 1 1 2 2 1 1 4 1 1 1 2 2 1 1 4 1 9 2 2 j 9 2 2 j 1 1 4 1 2 2 2 4 1 1 5d 1 1 1 33 1 k 2 2 14 1 1",
   "77 2 9 2 2 o 1 1 gnq 1 1 1 2 2 1 1 91 1 1 1 gnk 3 1 1 2 2 1 1 at 1 1 1 3u 1 1 1 3y 1 5 2 2 8a 2 2 2 6 1 1 2",
   "9 1 1 6g 7 1 1 24 2 3 1 22 4 1 1 3k 2 2 1 3i 3 h 1 1s i 9 1 1s 18 1 1 g 9 c 2 2 s 1 1 3b 3 1 1 2 2 1 1 d 1 1",
   "1 2 3 3 1 77 3 g 1 4g g w 1 1s 28 h 2 2 16 r 2 2 1i 1 1 u 1 7 2 2 f 1c 2 2 2p 12 1 2o 29b 12 1 b7k 13 1 1",
   "b7k 6 1 1 b7k k3 28 1 1nz4 28 6 1 g 1pc 17 1 4n3 19 3 1 4n3 8z 23 2 2 4e 1 1 br1 2 1c 2 2 2w 8 1 f g 6 1 f g",
   "8 1 f g 8 1 f g 6 1 f h 4 2 f f 8 1 f w 8 1 f g 8 1 f g 8 1 f g 2 1 f 2 2 1 43 2 1 1 h c 4 1 4r 4 1 1 h c 2",
   "1 f 2 2 1 5j e 2 1 f 2 2 1 67 2 1 1 d c 2 1 73 2 2 1 6z 2 1 1 h 8a 1 1 bll 4 1 1 cxp 1 1 1 cqz 7 1 1 1k 1a g",
   "1 w z 1 1 2 mr q 1 1g 1fu 1c 1 2o 2o 1 1 2 2 1 1 gkt 1 1 1 5vv 1 1 1 gjx 3 3 2 2 6 1 1 gmv 1 1 1 gl5 1 1 1",
   "gn1 1 1 1 gmz 2 1 1 2 3 1 1 2 9 2 1 got 2 1e 2 2 2z 2 2 2 7 1 1 2 nym n 2 2 1s e 2 2 4i 7 2 2 g v 2 2 1z 2 2",
   "2 4 1 1 1iiv 1 5 2 2 d 1 1 2 2 1 1 1t8v 3 2 2 2 6 a 2 2 k 1 1 1taf 1 1 1 1tb1 1 1 1 1tat 1 1 1 1ta9 1 1 1",
   "1taf 2 1 1 1t7n 1 1 1 1t8z 1 1 1 1t7t 1 1 1 1fk 1 8 2 2 g 1 1 2n 1 1 1 1tad 1 1 1 1ilr 1 2 2 2 9 1 1 2 6 2 2",
   "2 v 1 1 2 h7w q 1 1s yn 14 1 28 4w 10 1 28 5c b 1 26 c f 1 26 g 7 1 26 8 2 1 26 1d8 1f 1 3k 2e8 w 1 1s gww w",
   "1 1s o8w y 1 1w"]

/-- a run of capitals: first, last, step and shift -/
structure CapitalRun where
  first : Nat
  last : Nat
  step : Nat
  shift : Int

/-- runs from their numbers, `pos` being where the run before begins -/
def capitalRunsFrom (pos : Nat) : List Nat → List CapitalRun
  | gap :: count :: step :: twice :: rest =>
    let shift : Int := if twice % 2 = 0 then (twice / 2 : Nat) else -((twice + 1) / 2 : Nat)
    ⟨pos + gap, pos + gap + (count - 1) * step, step, shift⟩ :: capitalRunsFrom (pos + gap) rest
  | _ => []

def capitalRuns : List CapitalRun := capitalRunsFrom 0 (tableNumbers capitalTable)

/-- the small letter of a character, the character itself when it has none -/
def lowerChar (c : Char) : Char :=
  let n := c.toNat
  if n < 128 then c.toLower
  else match capitalRuns.find? fun r => r.first ≤ n && n ≤ r.last && (n - r.first) % r.step = 0 with
    | some r => Char.ofNat ((n : Int) + r.shift).toNat
    | none => c

/-- true when the first character that case does not ignore is cased -/
def meetsCased (cs : List Char) : Bool :=
  match cs.dropWhile caseIgnorable.has with
  | c :: _ => cased.has c
  | [] => false

/-- the lower case of a text; `before` holds what precedes it, backwards -/
def lowerFrom (before : List Char) : List Char → List Char
  | [] => []
  | c :: cs =>
    let small :=
      if c = '\u0130' then ['i', '\u0307']
      else if c = '\u03a3' then [if meetsCased before && !meetsCased cs then '\u03c2' else '\u03c3']
      else [lowerChar c]
    small ++ lowerFrom (c :: before) cs

def lower (s : String) : String := String.ofList (lowerFrom [] s.toList)

end ChangeLint.Text
