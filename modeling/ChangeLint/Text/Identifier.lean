/-
Identifiers: a character that may begin one (class XID_Start, or the underscore), then characters that may continue one
(class XID_Continue).
-/
import ChangeLint.Text.Ranges

namespace ChangeLint.Text

/-- the characters that may begin an identifier -/
def identifierStart : Ranges := Ranges.ofTable
  ["1t q 4 1 1 q 1b 1 a 1 4 1 5 n 1 v 1 cq 4 c e 5 7 1 1 1 3l 5 1 2 3 3 1 1 6 1 1 3 1 1 1 k 1 2b 1 3v 8 4m 1 12",
   "2 1 6 15 1z r 4 4 19 17 z 2 1 2r 1 1 f 2 7 2 a 3 2 1 g 1 1 u t 2h b 1 o x 9 2 4 1 5 m 4 1 9 1 3 1 n p 7 b 5",
   "o 1 6 h 16 1m 1i 3 1 i 1 7 a f g 4 8 2 2 2 m 1 7 1 1 3 4 3 1 g 1 d 2 1 3 e 2 a 1 8 6 4 2 2 m 1 7 1 2 1 2 1 2",
   "v 4 1 1 j 3 g 9 1 3 1 m 1 7 1 2 1 5 3 1 i 1 f 2 n 1 b 8 2 2 2 m 1 7 1 2 1 5 3 1 u 2 1 3 f 1 h 1 1 6 3 3 1 4",
   "3 2 1 1 1 2 3 2 3 3 3 c m 1 1g 8 1 3 1 n 1 g 3 1 q 3 2 1 2 2 u 1 4 8 1 3 1 n 1 a 1 5 3 1 v 2 1 2 f 2 h 9 1 3",
   "1 15 2 1 g 1 5 3 8 3 o 6 5 i 3 o 1 9 1 1 2 7 1m 1c 1 1 d 7 1m 2 1 1 1 5 1 o 1 1 1 a 1 1 a 1 2 5 1 1 l 4 w 1",
   "1r 8 1 10 r 5 37 17 k 1 g 6 4 4 3 1 3 2 7 3 4 d c 1 h 12 1 1 5 1 2 17 1 99 1 4 2 7 1 1 1 4 2 15 1 4 2 x 1 4",
   "2 7 1 1 1 4 2 f 1 1l 1 4 2 1v 11 g g 2e 2 6 3 h8 2 h 1 q 5 23 3 b 7 i d j e i e d 1 3 f 1g z 1 4 1 1v 2h 7",
   "15 1 1 5 1y a v 1d u 2 5 b 18 4 q 1i n 9 1h 2a 1 2l 1b h 8 1i u d 2 a 18 q 10 15 3 a 10 2 9 7 17 2 3 15 4 1",
   "6 1 2 3 1 5 5c 1s 7q 2 6 2 12 2 6 2 8 1 1 1 1 1 1 1 v 2 1h 1 7 1 1 3 3 1 7 3 4 2 6 4 d 5 3 1 7 38 1 d 1 g d",
   "2t 1 4 1 2 a 1 1 2 6 6 1 1 1 1 1 1 g 2 4 5 5 4 1 h 15 22f 6d 6 4 3 2 c 12 1 1 5 1 2 1k 7 1 g n 9 7 1 7 1 7 1",
   "7 1 7 1 7 1 7 1 7 fa 3 p 9 7 5 2 5 4 2e 6 3 1 2i 1 4 5 17 1 2m h w 1c g e8 534 1s h3h 1v 1a 2 7h 3 g a 2 k",
   "1b g v 2 28 13 9 2 2v 2 1s 5 2 1 1 1 5 o g 1 3 1 4 1 n t 1g e 1e 1q 6 3 1 1 2 b s a n p t 7 1b s 1 g 5 1 a a",
   "5 1 15 n 3 1 8 k n 3 1 3 1e 1 1 3 2 2 5 2 1 1 1 o 3 2 b 7 3 c 6 2 6 2 6 9 7 1 7 1 17 1 e 6 37 t 8mc c n 4 1d",
   "6is a6 2 2y 12 7 c 5 5 1 1 a 1 d 1 5 1 1 1 2 1 2 1 30 x 3v 6 62 i 1s 2 1i 14 a 3b 1 1 1 3 1 1 1 1 1 1 1 1 3i",
   "10 q 6 q b 1k 2 v 3 6 2 6 2 6 2 3 z c 1 q 1 j 1 2 1 f 2 e y 3f 1x 1h 7f t 3 1d 1b w d u 5 12 a u 2 10 4 8 1",
   "5 16 4e i 10 4 10 4 14 8 1g c b 1 f 1 7 1 2 1 b 1 f 1 7 1 2 1v 8n 9 m a 8 o 6 1 16 1 9 1x 6 2 1 1 18 1 2 3 1",
   "2 n a n 9 v 1t j 1 2 a m a q 1y 1k 6 2 1s 1 f 4 1 3 1 t 16 t 3 t z 8 1 s r 1i a m a j d i 32 21 1j 1f d 1f d",
   "10 9o 16 6 2 26 t a 1 8 m 16 i 1a l r n c 1h 1l 2 2 1 d 19 w p q 10 t 1 2 1 8 z 3 1 c 1c e 4 l 1 1 1 z i 1 p",
   "2c 7 1 1 1 4 1 f 1 a 7 1b 12 8 2 2 2 m 1 7 1 2 1 5 3 1 i 1 c 5 4e 1h i 4 k 3 u 1c k 2 1 1 54 1b 15 4 10 1c k",
   "1 1n 17 d 1 1z r 11 7 55 18 38 1s v 8 2 1 2 8 1 2 1 o f 1 1 1 2m 8 2 13 g 1 1 1 s 1 a 14 7 1 l 1 b 1a j 1 i",
   "21 7b 9 1 11 h 1 1d u 34 7 1 2 1 12 l 1 p 6 1 2 1 w e 1 93 j 59 1 27 pm 2u 33 h 5g 218 2p f tr 34h g7 6nt ft",
   "7 v h 27 h u i 1c g 4 v l 5 j j4 1s 3k 23 5 1 1u d 1s 2 1 1 s 4qg 8 ye 16 9 6w7 4 1 7 1 2 1 83 19 3 h 4 8 b0",
   "1s4 2z 5 d 3 9 7 a 4me 2d 1 1z 1 2 2 1 2 2 2 4 1 c 1 1 1 7 1 1t 1 4 2 8 1 7 1 s 1 4 1 5 1 1 3 7 1 9g 2 p 1 p",
   "1 v 1 p 1 v 1 p 1 v 1 p 1 v 1 p 1 8 1f8 v dd 19 a 7 g 1 8x u i 18 z8 7 1 4 1 2 1 f 1 5h 1n 1w 7 1 xg 4 1 r 1",
   "2 1 1 2 1 1 a 1 4 1 1 1 1 6 1 4 1 1 1 1 1 1 3 1 2 1 1 2 1 1 1 1 1 1 1 1 1 1 2 1 1 2 4 1 7 1 4 1 4 1 1 1 a 1",
   "h 5 3 1 5 1 h 3es wyo w 37d 7 66 2 4g2 e 5rl 2e7 f2 15u 3t7"]

/-- the characters that may continue an identifier but not begin one -/
def identifierExtra : Ranges := Ranges.ofTable
  ["1c a 3h 1 g8 34 n 1 6z 5 7d 19 1 1 1 2 1 2 1 1 20 b 1c v 6 1 2t 7 2 6 2 2 1 4 2 a n 1 u r 2j b f a x 9 9 1 o",
   "4 1 9 1 3 1 5 17 3 1o 8 16 o 1 x 1i 3 1 i 1 7 a 2 2 a h 3 1k 1 1 7 2 2 2 3 9 1 a 2 2 a e 1 2 3 1k 1 1 5 4 2",
   "2 3 3 1 k c 3 1 b 3 1k 1 1 8 1 3 1 3 k 2 2 a a 6 1 3 1k 1 1 7 2 2 2 3 7 3 a 2 2 a i 1 1n 5 3 3 1 4 9 1 e a g",
   "5 1j 1 1 7 1 3 1 4 7 2 b 2 2 a h 3 1k 1 1 7 1 3 1 4 7 2 b 2 2 a g 4 1j 2 1 7 1 3 1 4 9 1 a 2 2 a h 3 1y 1 4",
   "6 1 1 1 8 6 a 2 2 1p 1 1 8 c 8 1 a 2f 1 1 a b 6 2 a 1q 2 6 a b 1 1 1 1 1 4 2 1d k 1 2 5 b 1 10 9 1 2s k 1 a",
   "c 4 4 3 1 3 2 7 3 4 d c 1 f jj 3 9 9 ps 4 s 3 t 2 u 2 1s w 9 1 2 a x 3 1 b 3z 1 3a c 4 c a a 3k b 1o 5 1l a",
   "1 t 2 b 6 a m e 1 g 1d 5 1b h b a h 9 c 3 u d 2 a 18 e 1c k 8 a 6 a 3a 3 1 l 4 1 6 1 2 3 5i 1s fz 2 j 1 3f d",
   "4 1 3 c 2da 3 3x 1 2o w fe 6 2x 2 n7p a 1x 1 4 a w 2 28 2 7k 1 3 1 4 1 n 5 4 1 2b 2 1e i a a 6 i d b s 8 p d",
   "18 4 1b e f a b 1 a a 1b e c 1 8 2 2 a x 3 1e 1 1 3 2 2 5 2 1 1 15 5 5 2 6k 8 1 2 2 a fms 1 kh g g g 3 2 o 3",
   "5c a 11 1 2m 2 gt 1 6a 1 45 5 85 a 11z 3 1 2 5 4 14 3 4 1 4l 2 fx 4 8 a a9 2 49 b 1d 4 3e 3 1h f v b 2 2 a 4",
   "19 b 7 1 19 a 6 3 10 e 1 a 5 2 18 1 c 3 1c e 8 4 1 c 2a c 6 1 4g c 5 a 6 4 1j 2 1 7 2 2 2 3 9 1 a 2 2 7 3 5",
   "5c i 9 a 4 1 29 k c a 5x 7 2 9 r 2 2a h f a 29 d 8 a 2b f 4 a 6q f 4l a 1y 6 1 2 2 4 1 1 1 2 c a 3b 7 2 7 3",
   "1 s a 14 7 1 4 8 1 9 b 1a g b9 8 1 8 g a 1k m 1 e 3e 6 3 1 1 2 1 7 1 1 8 a 1c 5 1 2 1 5 8 a 95 4 ew9 a 2e a",
   "12 5 1n 7 p a s5 1 1 1j 7 4 29 1 b 2 f57 2 3mp 1a 2 n f2 5 3 6 8 8 2 7 u 4 44 3 13d 1e e8 1j 4 1e 8 1 e 1 m",
   "5 1 f 11s 7 1 h 2 7 1 2 1 5 79 7 9 a 9w 1 1p e 15i 7 31 7 5 a 3o6 a gvt2 6o"]

/-- true of the characters that may begin an identifier; in ASCII these are the letters and the underscore -/
def beginsIdentifier (c : Char) : Bool :=
  if c.toNat < 128 then c.isAlpha || c = '_' else identifierStart.has c

/-- true of the characters that may continue an identifier; in ASCII digits are added to those that may begin one -/
def continuesIdentifier (c : Char) : Bool :=
  if c.toNat < 128 then c.isAlphanum || c = '_' else identifierStart.has c || identifierExtra.has c

def isIdentifier : List Char → Bool
  | [] => false
  | c :: cs => beginsIdentifier c && cs.all continuesIdentifier

end ChangeLint.Text
