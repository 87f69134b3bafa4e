/-
UTF-8. A byte text is read as a list of segments: a character with the bytes that encode it, or a maximal run of bytes
that begins as a character and goes wrong. `decode` refuses at the first wrong run and says where it stands, `decodeLossy`
writes one replacement character for each.

`encode` is the inverse: the shortest form of each character.
-/
namespace ChangeLint.Text.Utf8

/-- why bytes are no character -/
inductive Reason
  | invalidStart
  | invalidContinuation
  | truncated
deriving DecidableEq, Repr

def Reason.message : Reason → String
  | .invalidStart => "invalid start byte"
  | .invalidContinuation => "invalid continuation byte"
  | .truncated => "unexpected end of data"

/-- what stands at the front of a byte text, with the number of bytes that it takes -/
inductive Front
  | char (c : Char) (width : Nat)
  | bad (reason : Reason) (width : Nat)
deriving DecidableEq, Repr

/-- reads `n` continuation bytes, the next one between `lo` and `hi`; `acc` holds the bits and `width` the bytes so far -/
def continued (n : Nat) (lo hi : UInt8) (acc width : Nat) (rest : List UInt8) : Front :=
  match n, rest with
  | 0, _ => .char (Char.ofNat acc) width
  | _ + 1, [] => .bad .truncated width
  | n + 1, b :: bs =>
    if lo ≤ b && b ≤ hi then continued n 0x80 0xbf (acc * 64 + (b.toNat - 0x80)) (width + 1) bs
    else .bad .invalidContinuation width

/-- the front of the byte text `b :: rest` -/
def front (b : UInt8) (rest : List UInt8) : Front :=
  if b < 0x80 then .char (Char.ofNat b.toNat) 1
  else if b < 0xc2 then .bad .invalidStart 1
  else if b < 0xe0 then continued 1 0x80 0xbf (b.toNat - 0xc0) 1 rest
  else if b < 0xf0 then
    continued 2 (if b = 0xe0 then 0xa0 else 0x80) (if b = 0xed then 0x9f else 0xbf) (b.toNat - 0xe0) 1 rest
  else if b < 0xf5 then
    continued 3 (if b = 0xf0 then 0x90 else 0x80) (if b = 0xf4 then 0x8f else 0xbf) (b.toNat - 0xf0) 1 rest
  else .bad .invalidStart 1

/-- a piece of a byte text: a character or a wrong run -/
inductive Segment
  | char (c : Char) (width : Nat)
  | bad (reason : Reason) (bytes : List UInt8)
deriving DecidableEq, Repr

def segments : List UInt8 → List Segment
  | [] => []
  | b :: rest =>
    match front b rest with
    | .char c w => .char c w :: segments (rest.drop (w - 1))
    | .bad r w => .bad r (b :: rest.take (w - 1)) :: segments (rest.drop (w - 1))
termination_by bs => bs.length
decreasing_by all_goals simp only [List.length_drop, List.length_cons]; omega

/-- a refusal: the wrong run of bytes and its offset -/
structure Error where
  offset : Nat
  bytes : List UInt8
  reason : Reason
deriving DecidableEq, Repr

def hexByte (b : UInt8) : String :=
  let digit (n : Nat) : Char := if n < 10 then Char.ofNat (48 + n) else Char.ofNat (87 + n)
  String.ofList [digit (b.toNat / 16), digit (b.toNat % 16)]

def Error.message (e : Error) : String :=
  let place := match e.bytes with
    | [b] => s!"byte 0x" ++ hexByte b ++ s!" in position {e.offset}"
    | bs => s!"bytes in position {e.offset}-{e.offset + bs.length - 1}"
  "'utf-8' codec can't decode " ++ place ++ ": " ++ e.reason.message

/-- the characters of segments that hold no wrong run, `offset` being the bytes before them -/
def charsFrom (offset : Nat) : List Segment → Except Error (List Char)
  | [] => .ok []
  | .bad reason bytes :: _ => .error { offset, bytes, reason }
  | .char c w :: rest => (charsFrom (offset + w) rest).map (c :: ·)

/-- the text of well-formed bytes -/
def decode (bs : List UInt8) : Except Error (List Char) := charsFrom 0 (segments bs)

/-- a segment as a character -/
def Segment.orReplacement : Segment → Char
  | .char c _ => c
  | .bad _ _ => '\ufffd'

/-- the text of any bytes, each wrong run as a replacement character -/
def decodeLossy (bs : List UInt8) : List Char := (segments bs).map Segment.orReplacement

def encode (cs : List Char) : List UInt8 := cs.flatMap String.utf8EncodeChar

end ChangeLint.Text.Utf8
