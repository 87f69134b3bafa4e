/-
The order of data. Numbers, truth values among them, have an order, as do texts and lists of what has one; all else cannot
be compared. Equality holds between any data.

`sort` puts items into order by keys of several parts; equal ones keep their order. Which two keys are compared first
matters, since the first pair without an order is what it fails with: an item is put into the sorted ones before it by
halving.
-/
import ChangeLint.Failure

namespace ChangeLint

namespace Datum

/-- a number as one of three ranks and a value: below all, finite, above all; none for what is no number -/
def rank? : Datum → Option (Int × Rat)
  | .bool b => some (0, if b then 1 else 0)
  | .int n => some (0, n)
  | .real (.infinite negative) => some (if negative then -1 else 1, 0)
  | .real x => (Binary64.ratio? x).map fun q => (0, mkRat q.1 q.2)
  | _ => none

def codes (d : Datum) : List Nat := d.signs.map Text.Sign.code

def isNumber : Datum → Bool
  | .bool _ | .int _ | .real _ => true
  | _ => false

mutual

/-- true of equal data; a number equals another of any kind, and tables are equal when their members are -/
def same : Datum → Datum → Bool
  | .null, .null => true
  | .text s, .text t => s = t
  | .broken s, .broken t => s.signs = t.signs
  | .moment m, .moment n => m = n
  | .list ds, .list es => sameItems ds es
  | .table ms, .table ns => ms.length = ns.length && sameMembers ms ns
  | .brokenTable ms, .brokenTable ns => ms.length = ns.length && sameBroken ms ns
  | d, e => match d.rank?, e.rank? with
    | some a, some b => a = b
    | _, _ => false

def sameItems : List Datum → List Datum → Bool
  | [], [] => true
  | d :: ds, e :: es => same d e && sameItems ds es
  | _, _ => false

/-- true when all members of one table are in another -/
def sameMembers : List (String × Datum) → List (String × Datum) → Bool
  | [], _ => true
  | (k, d) :: ms, ns =>
    (match get? k ns with
      | some e => same d e
      | none => false) && sameMembers ms ns

def sameBroken : List (List Text.Sign × Datum) → List (List Text.Sign × Datum) → Bool
  | [], _ => true
  | (k, d) :: ms, ns =>
    (match get? k ns with
      | some e => same d e
      | none => false) && sameBroken ms ns

end

mutual

/-- true when a datum comes before another -/
def before : Datum → Datum → Except Misuse Bool
  | .text s, .text t => .ok (s < t)
  | .list ds, .list es => beforeItems ds es
  | d, e =>
    if d.isString && e.isString then .ok (d.codes < e.codes)
    else if d.isNumber && e.isNumber then
      match d.rank?, e.rank? with
      | some a, some b => .ok (a.1 < b.1 || (a.1 = b.1 && a.2 < b.2))
      | _, _ => .ok false
    else .error (.order d.kindName e.kindName)

/-- true when the first two items that differ are in order, or a list ends before the other -/
def beforeItems : List Datum → List Datum → Except Misuse Bool
  | [], es => .ok !es.isEmpty
  | _ :: _, [] => .ok false
  | d :: ds, e :: es => if same d e then beforeItems ds es else before d e

end

end Datum

namespace Order

variable {α : Type}

/-- where a key goes among sorted ones, from `lo` up to `hi`: behind all that do not come after it -/
def place (key : List Datum) (sorted : List (List Datum × α)) (fuel lo hi : Nat) : Except Misuse Nat :=
  match fuel with
  | 0 => .ok lo
  | fuel + 1 =>
    if lo < hi then
      let mid := (lo + hi) / 2
      match sorted[mid]? with
      | none => .ok lo
      | some (k, _) => do
        if ← Datum.beforeItems key k then place key sorted fuel lo mid else place key sorted fuel (mid + 1) hi
    else .ok lo

/-- items put one after the other into sorted ones -/
def insertAll (sorted : List (List Datum × α)) : List (List Datum × α) → Except Misuse (List (List Datum × α))
  | [] => .ok sorted
  | (k, a) :: more => do
    let i ← place k sorted sorted.length 0 sorted.length
    insertAll (sorted.take i ++ (k, a) :: sorted.drop i) more

/-- the longest front of items in which the next one always comes before the one before it, as the flag says, or never -/
def run (falling : Bool) (last : List Datum) :
    List (List Datum × α) → Except Misuse (List (List Datum × α) × List (List Datum × α))
  | [] => .ok ([], [])
  | (k, a) :: more => do
    if (← Datum.beforeItems k last) = falling then
      let (front, rest) ← run falling k more
      pure ((k, a) :: front, rest)
    else pure ([], (k, a) :: more)

def sort : List (List Datum × α) → Except Misuse (List (List Datum × α))
  | [] => .ok []
  | [x] => .ok [x]
  | x :: y :: more => do
    let falling ← Datum.beforeItems y.1 x.1
    let (front, rest) ← run falling y.1 more
    let front := x :: y :: front
    insertAll (if falling then front.reverse else front) rest

end Order

end ChangeLint
