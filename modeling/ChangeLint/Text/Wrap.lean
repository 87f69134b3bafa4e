/-
Breaking texts into lines of a width in cells. Words go on a line as long as they fit; one that fits on no line of its own is
either folded over several or left to be cut.
-/
import ChangeLint.Text.Blank
import ChangeLint.Text.Cells
import ChangeLint.Text.Split

namespace ChangeLint.Text

/-- the words of a text, each with the blanks after it and the first one also with those before it, so that they make up the
text; blanks alone are no word -/
def spacedWords (fuel : Nat) (cs : List Char) : List (List Char) :=
  match fuel with
  | 0 => []
  | fuel + 1 =>
    let (front, rest) := cs.span isBlank
    let (body, rest) := rest.span fun c => !isBlank c
    let (back, rest) := rest.span isBlank
    if body.isEmpty then [] else (front ++ body ++ back) :: spacedWords fuel rest

/-- where lines are broken, so far: the places backwards, the cells on the last line, and the place reached -/
structure Breaking where
  breaks : List Nat
  used : Nat
  pos : Nat
deriving Repr

namespace Breaking

/-- a break before the place reached, unless that is the beginning -/
def mark (b : Breaking) (pos : Nat) : List Nat := if pos = 0 then b.breaks else pos :: b.breaks

/-- a word that fits on no line, over several -/
def fold (width : Nat) (b : Breaking) (word : List Char) : Breaking :=
  let pieces := folded width word
  let (breaks, pos) := pieces.dropLast.foldl
    (fun (st : List Nat × Nat) piece => ((if st.2 = 0 then st.1 else st.2 :: st.1), st.2 + piece.length)) (b.breaks, b.pos)
  ⟨if pos = 0 then breaks else pos :: breaks, cells (pieces.getLastD []), b.pos + word.length⟩

/-- one more word -/
def step (width : Nat) (folds : Bool) (b : Breaking) (word : List Char) : Breaking :=
  let size := cells (trimEnd isBlank word)
  let next := b.pos + word.length
  if size + b.used ≤ width then ⟨b.breaks, b.used + cells word, next⟩
  else if width < size then
    if folds then b.fold width word else ⟨b.mark b.pos, cells word, next⟩
  else if b.used = 0 || b.pos = 0 then ⟨b.breaks, b.used, next⟩
  else ⟨b.pos :: b.breaks, cells word, next⟩

end Breaking

/-- where a text is broken into lines, in order -/
def breaks (width : Nat) (folds : Bool) (cs : List Char) : List Nat :=
  ((spacedWords (cs.length + 1) cs).foldl (Breaking.step width folds) ⟨[], 0, 0⟩).breaks.reverse

/-- a text cut at places, which are in order -/
def cutAt (pos : Nat) (cs : List Char) : List Nat → List (List Char)
  | [] => [cs]
  | p :: ps => cs.take (p - pos) :: cutAt p (cs.drop (p - pos)) ps

/-- a text in which every tab is as many blanks as lead to the next place for one; at least one -/
def untabbed (cs : List Char) : List Char :=
  let step (st : List Char × Nat) (c : Char) : List Char × Nat :=
    if c = '\t' then
      let size := 8 - st.2 % 8
      (blanks size ++ st.1, st.2 + size)
    else (c :: st.1, st.2 + cellWidth c)
  (cs.foldl step ([], 0)).1.reverse

/-- a text without the blanks at its end that are beyond a width -/
def withoutExcess (width : Nat) (cs : List Char) : List Char :=
  let blank := cs.length - (trimEnd isBlank cs).length
  cs.take (cs.length - min blank (cs.length - width))

/-- how a line stands in its width -/
inductive Alignment
  | asIs
  | left
  | center
deriving DecidableEq, Repr

/-- what becomes of a word that is wider than a line -/
inductive Overflow
  | fold
  | ellipsis
deriving DecidableEq, Repr

/-- a line cut to a width, and filled up if asked for -/
def truncate (width : Nat) (o : Overflow) (fill : Bool) (cs : List Char) : List Char :=
  let size := cells cs
  if width < size then
    match o with
    | .ellipsis => fit cs (width - 1) ++ ['…']
    | .fold => fit cs width
  else if fill then cs ++ blanks (width - size) else cs

/-- a line put into its place -/
def align (width : Nat) (o : Overflow) (a : Alignment) (cs : List Char) : List Char :=
  match a with
  | .asIs => cs
  | .left => truncate width o true cs
  | .center =>
    let cs := truncate width o false (trimEnd isBlank cs)
    let cs := blanks ((width - cells cs) / 2) ++ cs
    cs ++ blanks (width - cells cs)

/-- how a text is laid out -/
structure Layout where
  alignment : Alignment
  overflow : Overflow
  wraps : Bool
deriving DecidableEq, Repr

def wrapLine (l : Layout) (width : Nat) (cs : List Char) : List (List Char) :=
  let cs := if cs.contains '\t' then untabbed cs else cs
  let parts := if l.wraps then cutAt 0 cs (breaks width (l.overflow = .fold) cs) else [cs]
  parts.map fun p => truncate width l.overflow false (align width l.overflow l.alignment (withoutExcess width p))

def wrap (l : Layout) (width : Nat) (cs : List Char) : List (List Char) := (pieces '\n' cs).flatMap (wrapLine l width)

end ChangeLint.Text
