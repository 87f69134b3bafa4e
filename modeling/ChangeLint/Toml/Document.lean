/-
TOML documents: statements line by line. A statement opens a table, adds a table to an array, or sets a key of the table
that is open. `read` gives the members of the document.
-/
import ChangeLint.Interpreter
import ChangeLint.Toml.Value

namespace ChangeLint.Toml

/-- a document that has been read in part: its members, the marks on its keys, those that the next header makes, and the
key of the open table -/
structure Draft where
  members : Members
  marks : List Mark
  pending : List Mark
  header : Key
deriving Repr

namespace Draft

def empty : Draft := ⟨[], [], [], []⟩

/-- the draft with its pending marks made -/
def settle (d : Draft) : Draft := { d with marks := d.marks ++ d.pending, pending := [] }

/-- a new table, from the key of its header on -/
def declareTable (d : Draft) (cs : List Char) : Except Refusal (Draft × List Char) := do
  let (k, rest) ← key (skipBlanks cs)
  if forbids d.marks k .reopen || forbids d.marks k .change then refuse (.declaredTwice k) rest
  else
    match openTable k d.members with
    | none => refuse .overwrite rest
    | some ms =>
      match rest with
      | ']' :: rest => pure ({ d with members := ms, marks := d.marks ++ [⟨k, .reopen, false⟩], header := k }, rest)
      | rest => refuse .tableEnd rest

/-- a new table of an array, from the key of its header on -/
def declareItem (d : Draft) (cs : List Char) : Except Refusal (Draft × List Char) := do
  let (k, rest) ← key (skipBlanks cs)
  if forbids d.marks k .change then refuse (.immutable k) rest
  else
    match appendTable k d.members with
    | none => refuse .overwrite rest
    | some ms =>
      match rest with
      | ']' :: ']' :: rest =>
        pure ({ d with members := ms, marks := unmark d.marks k ++ [⟨k, .reopen, false⟩], header := k }, rest)
      | rest => refuse .arrayEnd rest

/-- the keys of the tables that a dotted key names on its way, none of which may have a header -/
def onTheWay (header k : Key) : List Key := (List.range (k.length - 1)).map fun i => header ++ k.take (i + 1)

/-- the draft with a key set, `rest` being what follows the value -/
def set (d : Draft) (k : Key) (value : Datum) (rest : List Char) : Except Refusal Draft :=
  let way := onTheWay d.header k
  match way.find? fun w => forbids d.marks w .reopen with
  | some w => refuse (.redefined w) rest
  | none =>
    let parent := d.header ++ k.dropLast
    let last := k.getLastD ""
    if forbids d.marks parent .change then refuse (.immutable parent) rest
    else
      match behind? true parent d.members with
      | none => refuse .overwrite rest
      | some t =>
        if (Datum.get? last t).isSome then refuse .overwrite rest
        else
          match changeBehind true (fun t => some (t ++ [(last, value)])) parent d.members with
          | none => refuse .overwrite rest
          | some ms =>
            let frozen := if isContainer value then [⟨d.header ++ k, .change, true⟩] else []
            .ok { d with
              members := ms
              marks := d.marks ++ frozen
              pending := d.pending ++ way.map fun w => ⟨w, .reopen, false⟩ }

/-- one statement at the beginning of a text, and the blanks after it -/
def statement (d : Draft) (cs : List Char) : Except Refusal (Draft × List Char) :=
  match cs with
  | [] => .ok (d, [])
  | c :: rest =>
    if isBareKey c || c = '\'' || c = '"' then do
      let ((k, v), after) ← pair (2 * cs.length + 2) cs
      let d ← d.set k v after
      pure (d, skipBlanks after)
    else if c = '[' then
      match rest with
      | '[' :: more => (d.settle.declareItem more).map fun (d, after) => (d, skipBlanks after)
      | _ => (d.settle.declareTable rest).map fun (d, after) => (d, skipBlanks after)
    else if c = '#' then .ok (d, cs)
    else refuse .statement cs

def statements (fuel : Nat) (d : Draft) (cs : List Char) : Except Refusal Draft :=
  match fuel with
  | 0 => .ok d
  | fuel + 1 =>
    match skipBlanks cs with
    | [] => .ok d
    | '\n' :: rest => statements fuel d rest
    | line =>
      match d.statement line with
      | .error e => .error e
      | .ok (d, rest) =>
        match skipComment rest with
        | .error e => .error e
        | .ok [] => .ok d
        | .ok ('\n' :: rest) => statements fuel d rest
        | .ok rest => refuse .lineEnd rest

end Draft

/-- a text with every line ended by a line feed alone -/
def plainLines : List Char → List Char
  | '\r' :: '\n' :: cs => '\n' :: plainLines cs
  | c :: cs => c :: plainLines cs
  | [] => []

/-- the members of a document whose lines end in line feeds, as far as the grammar goes -/
def grammar (cs : List Char) : Except Refusal Members :=
  (Draft.empty.statements (cs.length + 1) cs).map Draft.members

/-- the members of a document whose lines end in line feeds, if the stack is large enough for reading it -/
def read [Interpreter] (cs : List Char) : Except Refusal Members :=
  match Interpreter.overrun? .document cs with
  | some m => .error (.tooDeep m)
  | none => grammar cs

end ChangeLint.Toml
