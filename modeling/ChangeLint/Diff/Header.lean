/-
Header lines of a diff: where a hunk starts, and which paths a section is about.

A section header names both paths, with a/ and b/ in front, but nothing marks where the first ends. It is read by the
first of these rules that fits: quoted paths end at their quote; two equal paths meet at the space in the middle; else
the first place where ` b/` stands parts them; else they are the last two words.
-/
import ChangeLint.Diff.PathQuoting
import ChangeLint.Number.Text
import ChangeLint.Text.Split

namespace ChangeLint.Diff

def sectionMark : List Char := "diff --git".toList

/-- how a hunk begins -/
def hunkMark : List Char := "@@".toList

/-- digits at the front of a text, at least one -/
def someDigits? (cs : List Char) : Option (List Char × List Char) :=
  match cs.span Text.isDigit with
  | ([], _) => none
  | r => some r

/-- the digits of a start and the rest after an optional count -/
def rangeStart? (cs : List Char) : Option (List Char × List Char) :=
  match someDigits? cs with
  | none => none
  | some (start, rest) =>
    match rest with
    | ',' :: count => match someDigits? count with
      | some (_, after) => some (start, after)
      | none => some (start, rest)
    | _ => some (start, rest)

/-- the digits of both starts of a hunk header -/
def hunkStarts? (line : List Char) : Option (List Char × List Char) :=
  if "@@ -".toList.isPrefixOf line then
    match rangeStart? (line.drop 4) with
    | some (old, ' ' :: '+' :: rest) => match rangeStart? rest with
      | some (new, after) => if " @@".toList.isPrefixOf after then some (old, new) else none
      | none => none
    | _ => none
  else none

/-- the starts of a hunk; a malformed header counts from zero -/
def readHunk (line : List Char) : Except Number.TooLong (Nat × Nat) :=
  match hunkStarts? line with
  | none => .ok (0, 0)
  | some (old, new) => do
    let a ← Number.ofDigits old
    let b ← Number.ofDigits new
    .ok (a, b)

def hunkWarning (line : String) : String := "Malformed hunk header, numbering from 0: " ++ Text.quote line

/-- a path with a/ or b/ taken off its front -/
def withoutSide (side : Char) (cs : List Char) : List Char := Text.dropPrefix [side, '/'] cs

/-- two equal paths with their sides in front, parted by the space in the middle -/
def mirrored? (rest : List Char) : Option (List Char) :=
  if rest.length % 2 = 1 then
    let half := rest.length / 2
    match rest.take half, rest.drop half with
    | 'a' :: '/' :: old, ' ' :: 'b' :: '/' :: new => if old = new then some old else none
    | _, _ => none
  else none

/-- the first cut at ` b/` with a text of one line on both sides; `before` holds what is left of it, backwards -/
def sideCut? (before : List Char) : List Char → Option (List Char × List Char)
  | [] => none
  | c :: cs =>
    let new := cs.drop 2
    if !before.isEmpty && " b/".toList.isPrefixOf (c :: cs) && !new.isEmpty && !new.contains '\n' then
      some (before.reverse, new)
    else if c = '\n' then none
    else sideCut? (c :: before) cs

/-- the paths after the section mark, when they have their sides in front -/
def sided? (line : List Char) : Option (List Char × List Char) :=
  let text := Text.trimEnd Text.isBlank line
  if "diff --git a/".toList.isPrefixOf text then sideCut? [] (text.drop 13) else none

/-- the last two words of a header with four words or more, else nothing -/
def lastWords (line : List Char) : List Char × List Char :=
  let ws := Text.words line
  if ws.length < 4 then ([], [])
  else match ws.reverse with
    | new :: old :: _ => (old, new)
    | _ => ([], [])

/-- the blanks around the paths of a header -/
def isHeaderBlank (c : Char) : Bool := c = ' ' || c = '\t' || c = '\r'

/-- old and new path of a section header -/
def headerPaths (line : List Char) : List Char × List Char :=
  let rest := Text.trim isHeaderBlank (line.drop sectionMark.length)
  match rest with
  | '"' :: body =>
    let (token, after) := quotedToken body
    let new := after.dropWhile (· = ' ')
    (withoutSide 'a' (unquoted ('"' :: token)), withoutSide 'b' (unquoted new))
  | _ =>
    match if rest.getLast? = some '"' then Text.splitLast? [' ', '"'] rest else none with
    | some (old, new) => (withoutSide 'a' old, withoutSide 'b' (unquoted ('"' :: new)))
    | none => match mirrored? rest with
      | some path => (path, path)
      | none => match sided? line with
        | some paths => paths
        | none => lastWords line

/-- the path for a file that is not there -/
def nullPath : List Char := "/dev/null".toList

/-- the path of a marker line, which has four characters in front of it and may have a tab behind it -/
def markerPath? (side : List Char) (line : List Char) : Option (List Char) :=
  let name := line.drop 4
  let name := if name.getLast? = some '\t' then name.dropLast else name
  let path := unquoted name
  if path = nullPath then none else some (Text.dropPrefix side path)

end ChangeLint.Diff
