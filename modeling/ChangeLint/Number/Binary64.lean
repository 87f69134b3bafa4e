/-
Numbers of the binary64 format, with exact arithmetic: a finite number is mantissa times a power of two, and every
operation is the rational one followed by `round`, to the nearest number and in a tie to the even mantissa.

The mantissa is below 2^53, and below 2^52 only with the least exponent -1074: then equal numbers are equal values, signed
zeros apart.
-/
namespace ChangeLint

/-- a binary64 number; `finite neg m e` is m times 2 to the e, negated when `neg` -/
inductive Binary64
  | nan
  | infinite (negative : Bool)
  | finite (negative : Bool) (mantissa : Nat) (exponent : Int)
deriving DecidableEq, Repr

namespace Binary64

/-- the exponent of the least positive number -/
def minExponent : Int := -1074

/-- the exponent of the greatest numbers -/
def maxExponent : Int := 971

def zero : Binary64 := .finite false 0 minExponent

/-- `n / d` to the nearest integer, a tie to the even one -/
def divRound (n d : Nat) : Nat :=
  let q := n / d
  let r := n % d
  if 2 * r < d then q else if d < 2 * r then q + 1 else if q % 2 = 0 then q else q + 1

/-- `n / (d * 2^e)` as a quotient of naturals -/
def scaled (n d : Nat) (e : Int) : Nat × Nat :=
  if 0 ≤ e then (n, d * Nat.pow 2 e.toNat) else (n * Nat.pow 2 (-e).toNat, d)

/-- the exponent at which `n / d` has a mantissa of 53 bits, but no less than the least -/
def exponentOf (n d : Nat) : Int :=
  let guess : Int := (n.log2 : Int) - d.log2 - 52
  let (a, b) := scaled n d guess
  let e := if a / b < Nat.pow 2 52 then guess - 1 else if Nat.pow 2 53 ≤ a / b then guess + 1 else guess
  max e minExponent

/-- the number nearest to `n / d` -/
def round (negative : Bool) (n d : Nat) : Binary64 :=
  if n = 0 then .finite negative 0 minExponent
  else
    let e := exponentOf n d
    let (a, b) := scaled n d e
    let m := divRound a b
    let (m, e) := if m = Nat.pow 2 53 then (Nat.pow 2 52, e + 1) else (m, e)
    if maxExponent < e then .infinite negative else .finite negative m e

/-- the number nearest to `digits * 10^exponent` -/
def ofDecimal (negative : Bool) (digits : Nat) (exponent : Int) : Binary64 :=
  if digits = 0 then .finite negative 0 minExponent
  else if (digits.log2 : Int) + 3 * exponent < -1200 then .finite negative 0 minExponent
  else if 400 < exponent then .infinite negative
  else if 0 ≤ exponent then round negative (digits * Nat.pow 10 exponent.toNat) 1
  else round negative digits (Nat.pow 10 (-exponent).toNat)

def ofInt (n : Int) : Binary64 := round (n < 0) n.natAbs 1

/-- a finite number as a quotient of an integer and a natural -/
def ratio? : Binary64 → Option (Int × Nat)
  | .finite neg m e =>
    let n : Int := if 0 ≤ e then (m * Nat.pow 2 e.toNat : Nat) else m
    let d : Nat := if 0 ≤ e then 1 else Nat.pow 2 (-e).toNat
    some (if neg then -n else n, d)
  | _ => none

def neg : Binary64 → Binary64
  | .nan => .nan
  | .infinite s => .infinite (!s)
  | .finite s m e => .finite (!s) m e

def add (x y : Binary64) : Binary64 :=
  match x, y with
  | .nan, _ => .nan
  | _, .nan => .nan
  | .infinite s, .infinite t => if s = t then .infinite s else .nan
  | .infinite s, _ => .infinite s
  | _, .infinite t => .infinite t
  | .finite s _ _, .finite t _ _ =>
    match x.ratio?, y.ratio? with
    | some (a, b), some (c, d) =>
      let n := a * d + c * b
      if n = 0 then .finite (s && t) 0 minExponent else round (n < 0) n.natAbs (b * d)
    | _, _ => .nan

def sub (x y : Binary64) : Binary64 := add x (neg y)

/-- `x < y`; a nan is never below or above a number -/
def lt (x y : Binary64) : Bool :=
  match x, y with
  | .nan, _ => false
  | _, .nan => false
  | .infinite s, .infinite t => s && !t
  | .infinite s, _ => s
  | _, .infinite t => !t
  | _, _ =>
    match x.ratio?, y.ratio? with
    | some (a, b), some (c, d) => a * d < c * b
    | _, _ => false

/-- `x ≤ y`; a nan is never below or above a number -/
def le (x y : Binary64) : Bool :=
  match x, y with
  | .nan, _ => false
  | _, .nan => false
  | _, _ => !lt y x

instance : Add Binary64 := ⟨add⟩
instance : Sub Binary64 := ⟨sub⟩
instance : OfNat Binary64 0 := ⟨zero⟩
instance : LT Binary64 := ⟨fun x y => lt x y = true⟩
instance : LE Binary64 := ⟨fun x y => le x y = true⟩
instance (x y : Binary64) : Decidable (x < y) := inferInstanceAs (Decidable (lt x y = true))
instance (x y : Binary64) : Decidable (x ≤ y) := inferInstanceAs (Decidable (le x y = true))

end Binary64

end ChangeLint
