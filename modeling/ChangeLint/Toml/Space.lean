/-
The names of a TOML document: tables within tables, reached by keys, and marks on keys that forbid to open or to change
what they name.

A table is a list of members in the order in which they came. An array of tables is reached through its last table.
-/
import ChangeLint.Datum
import ChangeLint.Toml.Refusal

namespace ChangeLint.Toml

abbrev Members := List (String × Datum)

/-- changes the members behind a key, making the tables on the way; `throughArrays` allows to go through the last table of
an array. Fails when something on the way is no table. -/
def changeBehind (throughArrays : Bool) (f : Members → Option Members) : Key → Members → Option Members
  | [], ms => f ms
  | k :: ks, ms =>
    match Datum.get? k ms with
    | none => (changeBehind throughArrays f ks []).map fun t => Datum.put ms k (.table t)
    | some (.table t) => (changeBehind throughArrays f ks t).map fun t => Datum.put ms k (.table t)
    | some (.list items) =>
      match throughArrays, items.getLast? with
      | true, some (.table t) =>
        (changeBehind throughArrays f ks t).map fun t => Datum.put ms k (.list (items.dropLast ++ [.table t]))
      | _, _ => none
    | some _ => none

/-- the members behind a key; missing tables are empty -/
def behind? (throughArrays : Bool) : Key → Members → Option Members
  | [], ms => some ms
  | k :: ks, ms =>
    match Datum.get? k ms with
    | none => some []
    | some (.table t) => behind? throughArrays ks t
    | some (.list items) =>
      match throughArrays, items.getLast? with
      | true, some (.table t) => behind? throughArrays ks t
      | _, _ => none
    | some _ => none

/-- makes the table with a key, if there is none -/
def openTable (key : Key) (ms : Members) : Option Members := changeBehind true some key ms

/-- adds an empty table to the array with a key -/
def appendTable (key : Key) (ms : Members) : Option Members :=
  match key.getLast? with
  | none => none
  | some last =>
    changeBehind true (fun t =>
      match Datum.get? last t with
      | none => some (t ++ [(last, .list [.table []])])
      | some (.list items) => some (Datum.put t last (.list (items ++ [.table []])))
      | some _ => none) key.dropLast ms

/-- what a mark forbids: to open a table again, or to change it -/
inductive Ban
  | reopen
  | change
deriving DecidableEq, Repr

/-- a mark on a key; a deep one holds for all keys below it too -/
structure Mark where
  key : Key
  ban : Ban
  deep : Bool
deriving DecidableEq, Repr

/-- true when marks forbid something of a key -/
def forbids (marks : List Mark) (key : Key) (b : Ban) : Bool :=
  !key.isEmpty && marks.any fun m => m.ban = b && (m.key = key || (m.deep && m.key.isPrefixOf key))

/-- marks without those on a key and below it -/
def unmark (marks : List Mark) (key : Key) : List Mark := marks.filter fun m => !key.isPrefixOf m.key

end ChangeLint.Toml
