/-
One form for all spellings of a name: every character is decomposed as far as compatibility allows, marks are put into the
order of their classes, and what composes is composed again. So a ligature and its letters are one name.
-/
import ChangeLint.Text.Decomposition

namespace ChangeLint.Text

/-- Hangul syllables, their parts, and how many of each there are -/
def syllableBase : Nat := 0xAC00
def leadBase : Nat := 0x1100
def vowelBase : Nat := 0x1161
def tailBase : Nat := 0x11A7
def leadCount : Nat := 19
def vowelCount : Nat := 21
def tailCount : Nat := 28

def decompose (n : Nat) : List Nat :=
  if syllableBase ≤ n && n < syllableBase + leadCount * vowelCount * tailCount then
    let i := n - syllableBase
    let tail := i % tailCount
    [leadBase + i / (vowelCount * tailCount), vowelBase + i % (vowelCount * tailCount) / tailCount] ++
      (if tail = 0 then [] else [tailBase + tail])
  else
    match runOf? decompositions n 0 decompositions.size with
    | some d => d.parts.map (· + (n - d.first))
    | none => [n]

/-- the combining class of a character, 0 for one that starts a group -/
def combiningClass (n : Nat) : Nat :=
  match runOf? combiningClasses n 0 combiningClasses.size with
  | some d => d.parts.headD 0
  | none => 0

/-- a mark put behind those of its class and of smaller ones; the marks stand backwards -/
def insertMark (n : Nat) (k : Nat) : List (Nat × Nat) → List (Nat × Nat)
  | (m, j) :: more => if k < j then (m, j) :: insertMark n k more else (n, k) :: (m, j) :: more
  | [] => [(n, k)]

/-- characters with their classes, backwards, the marks in order -/
def arranged (ns : List Nat) : List (Nat × Nat) :=
  ns.foldl (fun st n => let k := combiningClass n; if k = 0 then (n, 0) :: st else insertMark n k st) []

def compose? (a b : Nat) : Option Nat :=
  if leadBase ≤ a && a < leadBase + leadCount && vowelBase ≤ b && b < vowelBase + vowelCount then
    some (syllableBase + ((a - leadBase) * vowelCount + (b - vowelBase)) * tailCount)
  else if syllableBase ≤ a && a < syllableBase + leadCount * vowelCount * tailCount && (a - syllableBase) % tailCount = 0 &&
      tailBase < b && b < tailBase + tailCount then some (a + (b - tailBase))
  else (compositions.find? fun t => t.1 == (a, b)).map (·.2)

/-- what has been composed: the characters before the last that starts a group, that one if there is one, and the marks
after it, both backwards -/
structure Composing where
  before : List Nat
  start : Option Nat
  marks : List (Nat × Nat)

/-- all characters so far, backwards -/
def Composing.all (st : Composing) : List Nat := st.marks.map (·.1) ++ st.start.toList ++ st.before

/-- one more character: it composes with the start unless a mark of its class or a greater one stands between -/
def Composing.step (st : Composing) (c : Nat × Nat) : Composing :=
  let free := match st.marks with
    | [] => true
    | (_, k) :: _ => k < c.2
  match (if free then st.start.bind (compose? · c.1) else none) with
  | some n => { st with start := some n }
  | none => if c.2 = 0 then ⟨st.all, some c.1, []⟩ else { st with marks := c :: st.marks }

/-- the one form of a text -/
def normal (cs : List Char) : List Char :=
  if cs.all (·.toNat < 128) then cs
  else
    let cs := (arranged (cs.flatMap fun c => decompose c.toNat)).reverse
    (cs.foldl Composing.step ⟨[], none, []⟩).all.reverse.map Char.ofNat

end ChangeLint.Text
