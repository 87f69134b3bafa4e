/-
Numbers and moments in TOML. Each reader takes the longest scalar of its kind at the beginning of a text, none when there
is no such scalar there.
-/
import ChangeLint.Datum
import ChangeLint.Toml.Quoted

namespace ChangeLint.Toml

/-- digits with single underscores between them: the digits alone, and the rest -/
def digitRun (p : Char → Bool) : List Char → List Char × List Char
  | [] => ([], [])
  | c :: cs => if p c then (fun (ds, rest) => (c :: ds, rest)) (more cs) else ([], c :: cs)
where
  more : List Char → List Char × List Char
    | [] => ([], [])
    | '_' :: d :: cs => if p d then (fun (ds, rest) => (d :: ds, rest)) (more cs) else ([], '_' :: d :: cs)
    | c :: cs => if p c then (fun (ds, rest) => (c :: ds, rest)) (more cs) else ([], c :: cs)

def valueIn (base : Nat) (ds : List Char) : Nat := (ds.filterMap hexValue?).foldl (fun v d => v * base + d) 0

/-- a number in a base other than ten, after its mark -/
def based (base : Nat) (cs : List Char) : Option (Nat × List Char) :=
  let (ds, rest) := digitRun (fun c => (hexValue? c).any (· < base)) cs
  if ds.isEmpty then none else some (valueIn base ds, rest)

def marked? : List Char → Option (Nat × List Char)
  | '0' :: 'x' :: cs => based 16 cs
  | '0' :: 'o' :: cs => based 8 cs
  | '0' :: 'b' :: cs => based 2 cs
  | _ => none

/-- the digits before the point: a lone zero, or digits that begin with another one -/
def whole? : List Char → Option (List Char × List Char)
  | '0' :: cs => some (['0'], cs)
  | c :: cs => if c.isDigit then some (digitRun Char.isDigit (c :: cs)) else none
  | [] => none

/-- the digits after the point, and the rest; without digits the point is not taken -/
def fraction (cs : List Char) : List Char × List Char :=
  match cs with
  | '.' :: rest =>
    match digitRun Char.isDigit rest with
    | ([], _) => ([], cs)
    | found => found
  | _ => ([], cs)

def sign : List Char → Bool × List Char
  | '-' :: cs => (true, cs)
  | '+' :: cs => (false, cs)
  | cs => (false, cs)

def exponent (cs : List Char) : Option Int × List Char :=
  match cs with
  | c :: rest =>
    if c = 'e' || c = 'E' then
      let (negative, digits) := sign rest
      match digitRun Char.isDigit digits with
      | ([], _) => (none, cs)
      | (ds, after) =>
        let n : Int := valueIn 10 ds
        (some (if negative then -n else n), after)
    else (none, cs)
  | [] => (none, [])

def number? (cs : List Char) : Option (Result Datum) :=
  match marked? cs with
  | some (n, rest) => some (.ok (.int n, rest))
  | none =>
    let (negative, body) := sign cs
    (whole? body).map fun (ds, afterWhole) =>
      let (part, afterPart) := fraction afterWhole
      let (power, rest) := exponent afterPart
      if part.isEmpty && power.isNone then
        match Number.ofDigits ds with
        | .error e => .error (.tooLong e)
        | .ok n => .ok (.int (if negative then -(n : Int) else n), rest)
      else
        let x := Binary64.ofDecimal negative (valueIn 10 (ds ++ part)) (power.getD 0 - part.length)
        .ok (.real x, rest)

/-- an infinity or what is no number, by name -/
def namedReal? (cs : List Char) : Option (Datum × List Char) :=
  let (negative, body) := sign cs
  match body with
  | 'i' :: 'n' :: 'f' :: rest => some (.real (.infinite negative), rest)
  | 'n' :: 'a' :: 'n' :: rest => some (.real .nan, rest)
  | _ => none

/-- two digits whose number lies between bounds -/
def two? (lo hi : Nat) : List Char → Option (Nat × List Char)
  | a :: b :: cs =>
    let n := (a.toNat - 48) * 10 + (b.toNat - 48)
    if a.isDigit && b.isDigit && lo ≤ n && n ≤ hi then some (n, cs) else none
  | _ => none

def char? (c : Char) : List Char → Option (List Char)
  | d :: cs => if d = c then some cs else none
  | [] => none

/-- the fraction of a second in millionths; further digits are dropped -/
def microseconds (cs : List Char) : Nat × List Char :=
  match cs with
  | '.' :: rest =>
    match rest.span Char.isDigit with
    | ([], _) => (0, cs)
    | (ds, after) => (valueIn 10 ((ds ++ List.replicate 6 '0').take 6), after)
  | _ => (0, cs)

def clock? (cs : List Char) : Option (Clock × List Char) := do
  let (hour, cs) ← two? 0 23 cs
  let cs ← char? ':' cs
  let (minute, cs) ← two? 0 59 cs
  let cs ← char? ':' cs
  let (second, cs) ← two? 0 59 cs
  let (micro, cs) := microseconds cs
  pure (⟨hour, minute, second, micro⟩, cs)

/-- an offset from universal time in minutes, if there is one, and the rest -/
def offset (cs : List Char) : Option Int × List Char :=
  match cs with
  | [] => (none, [])
  | c :: rest =>
    if c = 'Z' || c = 'z' then (some 0, rest)
    else if c = '+' || c = '-' then
      let found := do
        let (hour, cs) ← two? 0 23 rest
        let cs ← char? ':' cs
        let (minute, cs) ← two? 0 59 cs
        pure (hour * 60 + minute, cs)
      match found with
      | some (n, after) => (some (if c = '-' then -(n : Int) else n), after)
      | none => (none, cs)
    else (none, cs)

/-- a day, not yet checked against the calendar -/
def day? : List Char → Option (Day × List Char)
  | a :: b :: c :: d :: cs => do
    if !([a, b, c, d].all Char.isDigit) then none
    let cs ← char? '-' cs
    let (month, cs) ← two? 1 12 cs
    let cs ← char? '-' cs
    let (day, cs) ← two? 1 31 cs
    pure (⟨valueIn 10 [a, b, c, d], month, day⟩, cs)
  | _ => none

def isLeap (year : Nat) : Bool := year % 4 = 0 && (year % 100 != 0 || year % 400 = 0)

def monthLength (year month : Nat) : Nat :=
  if month = 2 then (if isLeap year then 29 else 28)
  else if month = 4 || month = 6 || month = 9 || month = 11 then 30
  else 31

/-- true of days in the calendar, which begins with the year one -/
def inCalendar (d : Day) : Bool := 1 ≤ d.year && d.day ≤ monthLength d.year d.month

def timeOfDay? : List Char → Option (Clock × Option Int × List Char)
  | c :: cs =>
    if c = 'T' || c = 't' || c = ' ' then do
      let (time, cs) ← clock? cs
      let (zone, cs) := offset cs
      pure (time, zone, cs)
    else none
  | [] => none

/-- a day with or without a time, or a time -/
def moment? (cs : List Char) : Option (Result Datum) :=
  match day? cs with
  | some (d, rest) => some <|
    if !inCalendar d then refuse .moment cs
    else match timeOfDay? rest with
      | some (time, zone, rest) => .ok (.moment (.both d time zone), rest)
      | none => .ok (.moment (.day d), rest)
  | none => (clock? cs).map fun (time, rest) => .ok (.moment (.clock time), rest)

end ChangeLint.Toml
