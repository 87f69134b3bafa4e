/-
Reading a diff. The records of a framed diff are fed one by one into a `Reading`: the files done and the section at
hand. A section mark closes the section and opens the next one; every other record becomes a line of the section.

A section counts two numbers, one for each file, from the last hunk header on; before the first one it has none. Its
header lines, up to the first hunk header, may name the paths more exactly than the section mark did. A section that
ends without both paths is dropped, as are the records before the first section mark.
-/
import ChangeLint.Diff.Basic
import ChangeLint.Diff.Header
import ChangeLint.Framing
import ChangeLint.Act

namespace ChangeLint.Diff

/-- the two paths of a section; an empty one is not known -/
structure Paths where
  old : List Char
  new : List Char
deriving DecidableEq, Repr

/-- a path in place of another one, unless it is missing or empty -/
def orElse (path : Option (List Char)) (other : List Char) : List Char :=
  match path with
  | some (c :: cs) => c :: cs
  | _ => other

/-- the paths after a header line -/
def Paths.take (p : Paths) (line : List Char) : Paths :=
  if "--- ".toList.isPrefixOf line then { p with old := orElse (markerPath? "a/".toList line) p.old }
  else if "+++ ".toList.isPrefixOf line then { p with new := orElse (markerPath? "b/".toList line) p.new }
  else if "rename from ".toList.isPrefixOf line then { p with old := unquoted (line.drop 12) }
  else if "rename to ".toList.isPrefixOf line then { p with new := unquoted (line.drop 10) }
  else p

/-- the section at hand -/
structure Section where
  paths : Paths
  inHeader : Bool
  oldNext : Option Int
  newNext : Option Int
  lines : Array DiffLine
deriving DecidableEq, Repr

namespace Section

def none : Section := ⟨⟨[], []⟩, false, .none, .none, #[]⟩

/-- the section that a section mark opens -/
def opened (line : List Char) : Section :=
  let (old, new) := headerPaths line
  ⟨⟨old, new⟩, !old.isEmpty || !new.isEmpty, .none, .none, #[]⟩

/-- the file diff of a section, if both its paths are known -/
def build? (s : Section) : Option FileDiff :=
  if s.paths.old.isEmpty || s.paths.new.isEmpty then .none
  else some ⟨String.ofList s.paths.old, String.ofList s.paths.new, s.lines.toList⟩

/-- the next number after a line that counts -/
def succ (n : Option Int) : Option Int := n.map (· + 1)

/-- the section with one more line -/
def add (s : Section) (line : List Char) : Except Number.TooLong Section := do
  let s := if s.inHeader then { s with paths := s.paths.take line } else s
  let text := String.ofList line
  if hunkMark.isPrefixOf line then
    let (old, new) ← readHunk line
    .ok { s with
      inHeader := false, oldNext := some old, newNext := some new
      lines := s.lines.push ⟨.metadata, text, .none, .none⟩ }
  else match line.head? with
    | some '+' =>
      .ok { s with newNext := succ s.newNext, lines := s.lines.push ⟨.added, text, .none, s.newNext⟩ }
    | some '-' =>
      .ok { s with oldNext := succ s.oldNext, lines := s.lines.push ⟨.removed, text, s.oldNext, .none⟩ }
    | _ =>
      .ok { s with
        oldNext := succ s.oldNext, newNext := succ s.newNext
        lines := s.lines.push ⟨.unchanged, text, s.oldNext, s.newNext⟩ }

end Section

/-- the files done and the section at hand -/
structure Reading where
  done : Array FileDiff
  current : Section
deriving DecidableEq, Repr

namespace Reading

/-- nothing read -/
def start : Reading := ⟨#[], .none⟩

/-- the files, the section at hand closed -/
def files (r : Reading) : Array FileDiff :=
  match r.current.build? with
  | some d => r.done.push d
  | none => r.done

/-- the reading after one more record -/
def feed (r : Reading) (line : List Char) : Except Number.TooLong Reading :=
  if sectionMark.isPrefixOf line then .ok ⟨r.files, .opened line⟩
  else (r.current.add line).map fun s => { r with current := s }

end Reading

/-- the file diffs of records -/
def ofRecords (records : List (List Char)) : Except Number.TooLong (List FileDiff) :=
  (records.foldlM Reading.feed .start).map fun r => r.files.toList

/-- the file diffs of a framed text -/
def parse (framed : String) : Except Number.TooLong (List FileDiff) := ofRecords (Framing.recordsOf framed.toList)

/-- the warnings for malformed hunk headers, up to the first one whose numbers are too long -/
def warnings : List (List Char) → List Entry
  | [] => []
  | line :: rest =>
    if hunkMark.isPrefixOf line then
      match hunkStarts? line, readHunk line with
      | _, .error _ => []
      | none, _ => ⟨.warning, hunkWarning (String.ofList line)⟩ :: warnings rest
      | some _, _ => warnings rest
    else warnings rest

/-- `parse` with its log -/
def read (framed : String) : Act (List FileDiff) := do
  Act.notes (warnings (Framing.recordsOf framed.toList))
  match parse framed with
  | .error e => Act.fail (.tooLong e)
  | .ok files =>
    Act.note .debug s!"Parsed diff for {files.length} file(s)"
    pure files

end ChangeLint.Diff
