/-
Matching. `Expr.match?` tries an expression at a place of a text and hands each way to match it, the preferred one first,
to what is to follow; the first way after which the rest matches too wins. `Pattern.search?` finds the leftmost match.

A repetition of no fixed count ends when it has come back to the place where its last optional turn began, so it makes at
most as many such turns as characters are left, and one more.
-/
import ChangeLint.Pattern.Case
import ChangeLint.Text.Blank
import ChangeLint.Text.Digit
import ChangeLint.Text.Letter

namespace ChangeLint

namespace Pattern

/-- where a match has come to: what lies before, backwards, what lies ahead, and what the groups have captured -/
structure State where
  before : List Char
  ahead : List Char
  groups : List (Nat × List Char)
deriving DecidableEq, Repr

namespace State

/-- the place in the text -/
def place (s : State) : Nat := s.before.length

/-- what a group has captured last -/
def captured? (s : State) (g : Nat) : Option (List Char) := s.groups.lookup g

/-- the state with a group captured -/
def capture (s : State) (g : Nat) (text : List Char) : State := { s with groups := (g, text) :: s.groups }

/-- the text between two places, the first one given by what lies before it -/
def since (s : State) (start : Nat) : List Char := (s.before.take (s.place - start)).reverse

/-- the state some characters further back, none when there are too few -/
def back? (s : State) : Nat → Option State
  | 0 => some s
  | n + 1 =>
    match s.before with
    | [] => none
    | c :: cs => State.back? { s with before := cs, ahead := c :: s.ahead } n

end State

/-- what is to follow -/
abbrev Next := State → Option State

/-- true when a character belongs to a category -/
def Category.has (ascii : Bool) (c : Char) : Category → Bool
  | .digit => if ascii then c.isDigit else Text.isDigit c
  | .space => if ascii then c = ' ' || ('\t' ≤ c && c ≤ '\r') else Text.isBlank c
  | .word => if ascii then c.isAlphanum || c = '_' else Text.isWordChar c

/-- true when a member of a set holds one of some code points, the last one standing for their category -/
def Item.has (ascii : Bool) (candidates : List Nat) (c : Char) : Item → Bool
  | .code n => candidates.contains n
  | .range first last => candidates.any fun n => first ≤ n && n ≤ last
  | .category k negated => k.has ascii c != negated

/-- the code points that count as a character under some options -/
def candidates (flags : Flags) (c : Char) : List Nat :=
  if flags.contains .ignoreCase then variants (!flags.contains .unicode) c.toNat else [c.toNat]

/-- true when a set holds a character -/
def setHas (flags : Flags) (negated : Bool) (items : List Item) (c : Char) : Bool :=
  items.any (Item.has (!flags.contains .unicode) (candidates flags c) c) != negated

def atWordEdge (flags : Flags) (s : State) : Bool :=
  let word (cs : List Char) : Bool := match cs with
    | [] => false
    | c :: _ => Category.word.has (!flags.contains .unicode) c
  word s.before != word s.ahead

/-- true when a condition holds at a place -/
def Anchor.holds (flags : Flags) (s : State) : Anchor → Bool
  | .lineStart => s.before.isEmpty || (flags.contains .multiline && s.before.head? == some '\n')
  | .lineEnd => s.ahead.isEmpty || s.ahead == ['\n'] || (flags.contains .multiline && s.ahead.head? == some '\n')
  | .textStart => s.before.isEmpty
  | .textEnd => s.ahead.isEmpty
  | .wordEdge => atWordEdge flags s
  | .noWordEdge => !(s.before.isEmpty && s.ahead.isEmpty) && !atWordEdge flags s

/-- takes one character of a class -/
def one (p : Char → Bool) (k : Next) : Next := fun s =>
  match s.ahead with
  | [] => none
  | c :: cs => if p c then k { s with before := c :: s.before, ahead := cs } else none

/-- takes a text; with `ignoreCase` small letters and capitals are the same -/
def verbatim (flags : Flags) (text : List Char) (k : Next) : Next :=
  match text with
  | [] => k
  | c :: cs =>
    let same (d : Char) : Bool :=
      if flags.contains .ignoreCase then
        small (!flags.contains .unicode) c.toNat == small (!flags.contains .unicode) d.toNat
      else c == d
    one same (verbatim flags cs k)

/-- `n` turns of a repetition, then what follows -/
def turns (turn : Next → Next) : Nat → Next → Next
  | 0, k => k
  | n + 1, k => turn (turns turn n k)

/-- the optional turns of a greedy repetition: at most `most`, none at the place where the last one began -/
def greedyTurns (turn : Next → Next) (k : Next) : Nat → Option Nat → Option Nat → Next
  | 0, _, _ => k
  | fuel + 1, most, last => fun s =>
    if most = some 0 || last = some s.place then k s
    else
      match turn (greedyTurns turn k fuel (most.map (· - 1)) (some s.place)) s with
      | some r => some r
      | none => k s

/-- the optional turns of a lazy repetition -/
def lazyTurns (turn : Next → Next) (k : Next) : Nat → Option Nat → Option Nat → Next
  | 0, _, _ => k
  | fuel + 1, most, last => fun s =>
    match k s with
    | some r => some r
    | none =>
      if most = some 0 || last = some s.place then none
      else turn (lazyTurns turn k fuel (most.map (· - 1)) (some s.place)) s

/-- the optional turns of a possessive repetition: each turn is settled before the next -/
def possessiveTurns (turn : Next → Next) : Nat → Option Nat → Option Nat → Next
  | 0, _, _ => some
  | fuel + 1, most, last => fun s =>
    if most = some 0 || last = some s.place then some s
    else
      match turn some s with
      | some r => possessiveTurns turn fuel (most.map (· - 1)) (some s.place) r
      | none => some s

/-- the turns that have to be made of a possessive repetition -/
def settledTurns (turn : Next → Next) : Nat → Next
  | 0 => some
  | n + 1 => fun s => (turn some s).bind (settledTurns turn n)

def repetition (greed : Greed) (least : Nat) (most : Option Nat) (turn : Next → Next) (k : Next) : Next := fun s =>
  let spare := most.map (· - least)
  let fuel := s.ahead.length + 2
  match greed with
  | .greedy => turns turn least (greedyTurns turn k fuel spare none) s
  | .lazy => turns turn least (lazyTurns turn k fuel spare none) s
  | .possessive => ((settledTurns turn least s).bind (possessiveTurns turn fuel spare none)).bind k

/-- matches an expression, and then what is to follow -/
def Expr.match? (widths : List (Option Width)) (flags : Flags) : Expr → Next → Next
  | .empty, k => k
  | .code n, k => one (fun c => (candidates flags c).contains n) k
  | .anyChar, k => one (fun c => flags.contains .dotAll || c != '\n') k
  | .chars negated items, k => one (setHas flags negated items) k
  | .anchor a, k => fun s => if a.holds flags s then k s else none
  | .seq a b, k => a.match? widths flags (b.match? widths flags k)
  | .alt a b, k => fun s =>
    match a.match? widths flags k s with
    | some r => some r
    | none => b.match? widths flags k s
  | .group none on off body, k => body.match? widths (flags.combine on off) k
  | .group (some g) on off body, k => fun s =>
    body.match? widths (flags.combine on off) (fun r => k (r.capture g (r.since s.place))) s
  | .atomic body, k => fun s => (body.match? widths flags some s).bind k
  | .again greed least most body, k => repetition greed least most (body.match? widths flags) k
  | .look behind negated body, k => fun s =>
    let start := if behind then s.back? (body.width widths).least else some s
    match start.bind (body.match? widths flags some), negated with
    | some r, false => k { s with groups := r.groups }
    | none, true => k s
    | _, _ => none
  | .reference g, k => fun s =>
    match s.captured? g with
    | some text => verbatim flags text k s
    | none => none
  | .provided g yes no, k => fun s =>
    if (s.captured? g).isSome then yes.match? widths flags k s else no.match? widths flags k s

/-- the first match at some character of a text or after it -/
def searchFrom (p : Pattern) (before : List Char) (ahead : List Char) : Option State :=
  match p.body.match? p.widths p.flags some ⟨before, ahead, []⟩ with
  | some s => some s
  | none =>
    match ahead with
    | [] => none
    | c :: cs => searchFrom p (c :: before) cs

end Pattern

namespace Pattern

/-- the leftmost match of a pattern in a text -/
def search? (p : Pattern) (text : List Char) : Option Pattern.State := Pattern.searchFrom p [] text

/-- what a named group has captured in a match -/
def named? (p : Pattern) (s : Pattern.State) (name : String) : Option (List Char) :=
  (p.names.lookup name).bind s.captured?

end Pattern

end ChangeLint
