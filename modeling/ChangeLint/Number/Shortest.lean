/-
The fewest decimal digits that read back. A finite number stands for an interval of reals: those that round to it, ends
included when the mantissa is even. For one digit, two digits and so on the two decimals next to the number are tried;
the first that lie in the interval win, of two the nearer, in a tie the even one.
-/
import ChangeLint.Number.Binary64

namespace ChangeLint.Binary64

/-- digits and the power of ten of their first one: `digits = 123`, `point = 1` is 1.23 -/
structure Decimal where
  digits : List Char
  point : Int
deriving DecidableEq, Repr

structure Quotient where
  num : Nat
  den : Nat

namespace Quotient

def le (x y : Quotient) : Bool := x.num * y.den ≤ y.num * x.den

def lt (x y : Quotient) : Bool := x.num * y.den < y.num * x.den

def dist (x y : Quotient) : Quotient :=
  let a := x.num * y.den
  let b := y.num * x.den
  ⟨(a - b) + (b - a), x.den * y.den⟩

/-- `m * 2^e` -/
def ofBinary (m : Nat) (e : Int) : Quotient :=
  if 0 ≤ e then ⟨m * Nat.pow 2 e.toNat, 1⟩ else ⟨m, Nat.pow 2 (-e).toNat⟩

/-- `n * 10^e` -/
def ofDecimal (n : Nat) (e : Int) : Quotient :=
  if 0 ≤ e then ⟨n * Nat.pow 10 e.toNat, 1⟩ else ⟨n, Nat.pow 10 (-e).toNat⟩

/-- the integer part of `x / 10^e` -/
def floorAt (x : Quotient) (e : Int) : Nat :=
  if 0 ≤ e then x.num / (x.den * Nat.pow 10 e.toNat) else x.num * Nat.pow 10 (-e).toNat / x.den

end Quotient

/-- the reals that round to a finite number with a positive mantissa: lower end, upper end, ends included -/
def interval (m : Nat) (e : Int) : Quotient × Quotient × Bool :=
  let low := if m = Nat.pow 2 52 ∧ minExponent < e then Quotient.ofBinary (4 * m - 1) (e - 2)
    else Quotient.ofBinary (2 * m - 1) (e - 1)
  (low, Quotient.ofBinary (2 * m + 1) (e - 1), m % 2 = 0)

/-- true when a real rounds to the number with mantissa `m` and exponent `e` -/
def roundsTo (m : Nat) (e : Int) (x : Quotient) : Bool :=
  let (low, high, closed) := interval m e
  if closed then low.le x && x.le high else low.lt x && x.lt high

/-- the power of ten of the first digit of a positive quotient, found from an estimate -/
def leadingPower (x : Quotient) : Int :=
  let bits : Int := (x.num.log2 : Int) - x.den.log2
  let guess : Int := Int.fdiv (bits * 30103) 100000
  let fits (k : Int) : Bool := (Quotient.ofDecimal 1 k).le x && x.lt (Quotient.ofDecimal 1 (k + 1))
  ([guess - 2, guess - 1, guess, guess + 1, guess + 2].find? fits).getD guess

/-- of the two decimals with `n` digits next to the number, the one that reads back -/
def candidate (m : Nat) (e : Int) (x : Quotient) (power : Int) (n : Nat) : Option (Nat × Int) :=
  let unit := power - (n - 1 : Nat)
  let below := x.floorAt unit
  let dec (k : Nat) : Quotient := Quotient.ofDecimal k unit
  let okBelow := roundsTo m e (dec below)
  let okAbove := roundsTo m e (dec (below + 1))
  if okBelow && okAbove then
    let a := x.dist (dec below)
    let b := x.dist (dec (below + 1))
    if a.lt b then some (below, unit)
    else if b.lt a then some (below + 1, unit)
    else some (if below % 2 = 0 then below else below + 1, unit)
  else if okBelow then some (below, unit)
  else if okAbove then some (below + 1, unit)
  else none

/-- a text without its trailing zeros, but for the first digit -/
def withoutZeros (cs : List Char) : List Char :=
  match (cs.reverse.dropWhile (· = '0')).reverse with
  | [] => ['0']
  | ds => ds

/-- the fewest digits that read back as the number with mantissa `m > 0` and exponent `e` -/
def shortest (m : Nat) (e : Int) : Decimal :=
  let x := Quotient.ofBinary m e
  let power := leadingPower x
  match ((List.range 17).findSome? fun n => candidate m e x power (n + 1)) with
  | none => ⟨['0'], 0⟩
  | some (k, unit) =>
    let ds := Nat.toDigits 10 k
    ⟨withoutZeros ds, unit + (ds.length - 1 : Nat)⟩

end ChangeLint.Binary64
