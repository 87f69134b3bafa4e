/-
Letters that differ in case alone. Two code points are the same letter when their small letters are the same, or when
these belong to one of a few families of small letters that share a capital.
-/
import ChangeLint.Pattern.Basic
import ChangeLint.Text.Case

namespace ChangeLint.Pattern

/-- families of small letters that share a capital -/
def siblings : List (List Nat) :=
  [[0x69, 0x131], [0x73, 0x17f], [0xb5, 0x3bc], [0x345, 0x3b9, 0x1fbe], [0x390, 0x1fd3], [0x3b0, 0x1fe3],
   [0x3b2, 0x3d0], [0x3b5, 0x3f5], [0x3b8, 0x3d1], [0x3ba, 0x3f0], [0x3c0, 0x3d6], [0x3c1, 0x3f1], [0x3c2, 0x3c3],
   [0x3c6, 0x3d5], [0x432, 0x1c80], [0x434, 0x1c81], [0x43e, 0x1c82], [0x441, 0x1c83], [0x442, 0x1c84, 0x1c85],
   [0x44a, 0x1c86], [0x463, 0x1c87], [0x1c88, 0xa64b], [0x1e61, 0x1e9b], [0xfb05, 0xfb06]]

/-- the small letter of a code point; with `ascii` only the capitals of ASCII have one -/
def small (ascii : Bool) (n : Nat) : Nat :=
  if n < 128 then (Char.ofNat n).toLower.toNat
  else if ascii then n
  else if n = 0x130 then 0x69
  else if h : n.isValidChar then (Text.lowerChar (Char.ofNatAux n h)).toNat
  else n

/-- the capitals with a given small letter -/
def capitals (ascii : Bool) (n : Nat) : List Nat :=
  (if 97 ≤ n && n ≤ 122 then [n - 32] else []) ++
    (if ascii then []
    else
      (if n = 0x69 then [0x130] else []) ++
        Text.capitalRuns.filterMap fun r =>
          let c := ((n : Int) - r.shift).toNat
          if r.first ≤ c && c ≤ r.last && (c - r.first) % r.step = 0 then some c else none)

/-- the small letters of a letter's family -/
def family (ascii : Bool) (n : Nat) : List Nat :=
  if ascii then [n] else (siblings.find? (·.contains n)).getD [n]

/-- the code points that are the same letter as a given one -/
def variants (ascii : Bool) (n : Nat) : List Nat :=
  (family ascii (small ascii n)).flatMap fun k => k :: capitals ascii k

end ChangeLint.Pattern
