/-
Large character classes, kept as written numbers. A table is a list of lines of numbers in base 36; a class is written as
pairs of gap and length, each gap counted from the end of the run before it. Membership is a binary search.
-/
namespace ChangeLint.Text

/-- the value of a digit in base 36, for the tables of this library: digits and lower-case letters -/
def digit36 (c : Char) : Nat := if c.isDigit then c.toNat - 48 else c.toNat - 87

/-- the numbers of a line of a table, between single separators -/
def lineNumbers (sep : Char) (cs : List Char) : List Nat :=
  let step (st : List Nat × Nat) (c : Char) : List Nat × Nat :=
    if c = sep then (st.2 :: st.1, 0) else (st.1, st.2 * 36 + digit36 c)
  let (done, last) := cs.foldl step ([], 0)
  (last :: done).reverse

def tableNumbers (table : List String) : List Nat := table.flatMap fun line => lineNumbers ' ' line.toList

/-- runs of code points as (first, last), in increasing order -/
abbrev Ranges := Array (Nat × Nat)

/-- runs from gaps and lengths, `pos` being the code point after the run before -/
def rangesFrom (pos : Nat) : List Nat → List (Nat × Nat)
  | gap :: len :: rest => (pos + gap, pos + gap + len - 1) :: rangesFrom (pos + gap + len) rest
  | _ => []

def Ranges.ofTable (table : List String) : Ranges := (rangesFrom 0 (tableNumbers table)).toArray

/-- true when a code point lies in one of the runs numbered from `lo` up to and without `hi` -/
def Ranges.search (r : Ranges) (n lo : Nat) (hi : Nat) : Bool :=
  if lo < hi then
    let mid := (lo + hi) / 2
    match r[mid]? with
    | none => false
    | some (first, last) =>
      if n < first then Ranges.search r n lo mid
      else if last < n then Ranges.search r n (mid + 1) hi
      else true
  else false
termination_by hi - lo

/-- true when a character is in the class -/
def Ranges.has (r : Ranges) (c : Char) : Bool := r.search c.toNat 0 r.size

end ChangeLint.Text
