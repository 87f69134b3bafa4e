/-
Broken texts. A code of four hexadecimal digits may name half of a character; the halves stand in pairs, and one that stands
alone is no character. A text with such a half can be compared and quoted, but it has no bytes.

What is written of broken texts is a function of the characters that stand for halves. Two texts that differ in these only tell
where the first halves stand (`firstHalves`).
-/
import ChangeLint.Text.Quoted

namespace ChangeLint.Text

/-- half of a character, by its code -/
structure Half where
  code : Nat
  isHalf : 0xd800 ≤ code ∧ code ≤ 0xdfff
deriving DecidableEq, Repr

/-- a character, or a half that stands alone -/
inductive Sign
  | char (c : Char)
  | half (h : Half)
deriving DecidableEq, Repr

namespace Sign

/-- what a code names -/
def ofCode (n : Nat) : Sign := if h : 0xd800 ≤ n ∧ n ≤ 0xdfff then .half ⟨n, h⟩ else .char (Char.ofNat n)

def code : Sign → Nat
  | .char c => c.toNat
  | .half h => h.code

def char? : Sign → Option Char
  | .char c => some c
  | .half _ => none

/-- a character for a sign, `f` giving those for halves -/
def shown (f : Half → Char) : Sign → Char
  | .char c => c
  | .half h => f h

end Sign

def signs (cs : List Char) : List Sign := cs.map .char

/-- the characters of a text without halves -/
def chars? (ss : List Sign) : Option (List Char) := ss.mapM Sign.char?

/-- a text that holds a half -/
structure Broken where
  signs : List Sign
  isBroken : chars? signs = none
deriving Repr

/-- a half by its code -/
def escapeHalf (h : Half) : List Char := '\\' :: 'u' :: hexPadded 4 h.code

/-- a broken text between quotes -/
def quoteBroken (ss : List Sign) : String :=
  let q := quoteOf (ss.filterMap Sign.char?)
  let escaped : Sign → List Char
    | .char c => escapeQuoted q c
    | .half h => escapeHalf h
  String.ofList (q :: ss.flatMap escaped ++ [q])

/-- a text with its halves written by their codes -/
def escapeHalves (ss : List Sign) : String :=
  let escaped : Sign → List Char
    | .char c => [c]
    | .half h => escapeHalf h
  String.ofList (ss.flatMap escaped)

/-- a text with other characters for its halves -/
def shown (f : Half → Char) (ss : List Sign) : String := String.ofList (ss.map (Sign.shown f))

/-- halves that have no bytes, and the number of characters before them -/
structure Unencodable where
  offset : Nat
  codes : List Nat
deriving DecidableEq, Repr

def Unencodable.message (e : Unencodable) : String :=
  let place := match e.codes with
    | [n] => "character '" ++ String.ofList ('\\' :: 'u' :: hexPadded 4 n) ++ s!"' in position {e.offset}"
    | ns => s!"characters in position {e.offset}-{e.offset + ns.length - 1}"
  "'utf-8' codec can't encode " ++ place ++ ": surrogates not allowed"

/-- two characters of private use for each half -/
def lowStand (h : Half) : Char := Char.ofNat (0xe000 + (h.code - 0xd800))
def highStand (h : Half) : Char := Char.ofNat (0xf0000 + (h.code - 0xd800))

/-- what two texts that differ in what stands for halves tell of the first halves -/
def firstHalves (low high : List Char) : Unencodable :=
  let pairs := low.zip high
  let before := pairs.takeWhile fun p => p.1 = p.2
  let halves := (pairs.drop before.length).takeWhile fun p => p.1 ≠ p.2
  ⟨before.length, halves.map fun p => p.1.toNat - 0xe000 + 0xd800⟩

@[simp] theorem chars?_signs (cs : List Char) : chars? (signs cs) = some cs := by
  induction cs with
  | nil => rfl
  | cons c cs ih => simp_all [chars?, signs, Sign.char?]

end ChangeLint.Text
