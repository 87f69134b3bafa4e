/-
Reading patterns. `Pattern.read` turns a text into a pattern or says why it is none.

The text is read token by token: a token is a character, or a backslash with the character after it. `Progress` is what
reading has found so far: the rest of the text, the options that hold for the whole pattern, the names of the groups,
their widths (none while a group is open), the first group that a look-behind may not refer to, and the groups that
conditions have named by number with the places where they did. Characters that a pattern names are looked up before it is
read (`charactersIn`).
-/
import ChangeLint.Interpreter
import ChangeLint.Pattern.Basic
import ChangeLint.Pattern.Refusal
import ChangeLint.Text.Identifier
import ChangeLint.Text.Letter

namespace ChangeLint.Pattern

/-- the characters that a pattern can name -/
class Characters where
  named? : String → Option Char

variable [Characters]

inductive Token
  | plain (c : Char)
  | escaped (c : Char)
deriving DecidableEq, Repr

def Token.chars : Token → List Char
  | .plain c => [c]
  | .escaped c => ['\\', c]

/-- how far reading has come -/
structure Progress where
  total : Nat
  rest : List Char
  flags : Flags
  names : List (String × Nat)
  widths : List (Option Width)
  behind : Option Nat
  conditions : List (Nat × Nat)
deriving Repr

abbrev Read := StateT Progress (Except Refusal)

namespace Read

/-- the next token, none at the end -/
def peek : Read (Option Token) := do
  match (← get).rest with
  | [] => pure none
  | ['\\'] => pure none
  | '\\' :: c :: _ => pure (some (.escaped c))
  | c :: _ => pure (some (.plain c))

def place : Read Nat := do
  let p ← get
  pure (p.total - p.rest.length)

/-- refuses the pattern at a place -/
def refuseAt (n : Nat) (r : Reason) : Read α := throw (.malformed r (some n))

/-- refuses the pattern some characters before the next token -/
def refuse (r : Reason) (back : Nat) : Read α := do
  let n ← place
  refuseAt (n - back) r

/-- goes on at a rest of the text, which may not be a lone backslash -/
def moveTo (rest : List Char) : Read Unit := do
  modify fun p => { p with rest := rest }
  if rest = ['\\'] then
    let p ← get
    refuseAt (p.total - 1) .danglingEscape

def token : Read (Option Token) := do
  match ← peek with
  | none => pure none
  | some t =>
    moveTo ((← get).rest.drop t.chars.length)
    pure (some t)

/-- true when the next token is a given character -/
def sees (c : Char) : Read Bool := do
  pure ((← peek) == some (.plain c))

/-- takes a given character if it comes next -/
def accept (c : Char) : Read Bool := do
  if ← sees c then
    let _ ← token
    pure true
  else pure false

/-- takes at most `n` characters of a class -/
def run (n : Nat) (p : Char → Bool) : Read (List Char) := do
  match n with
  | 0 => pure []
  | n + 1 =>
    match ← peek with
    | some (.plain c) =>
      if p c then
        let _ ← token
        let more ← run n p
        pure (c :: more)
      else pure []
    | _ => pure []

/-- takes what comes before a closing character, and that character -/
def name (closing : Char) (what : String) : Read (List Char) := do
  let found ← go ((← get).rest.length + 1) []
  pure found
where
  go (fuel : Nat) (found : List Char) : Read (List Char) := do
    match fuel with
    | 0 => pure found
    | fuel + 1 =>
      match ← token with
      | none =>
        if found.isEmpty then refuse (.missingName what) 0
        else refuse (.unterminatedName closing) found.length
      | some t =>
        if t = .plain closing then
          if found.isEmpty then refuse (.missingName what) 1 else pure found
        else go fuel (found ++ t.chars)

/-- refuses a name that is no identifier -/
def checkName (n : List Char) : Read Unit := do
  if !Text.isIdentifier n then refuse (.badName (String.ofList n)) (n.length + 1)

/-- true of a group that has been closed -/
def isClosed (g : Nat) : Read Bool := do
  pure (((← get).widths[g]?).bind id).isSome

/-- refuses a reference from inside a look-behind to a group that is open or was opened in it -/
def checkBehind (g : Nat) : Read Unit := do
  match (← get).behind with
  | none => pure ()
  | some bound =>
    if !(← isClosed g) then refuse .openGroup 0
    if bound ≤ g then refuse .groupOfLookBehind 0

/-! Escapes -/

def isOctal (c : Char) : Bool := '0' ≤ c && c ≤ '7'

def isHex (c : Char) : Bool := c.isDigit || ('a' ≤ c && c ≤ 'f') || ('A' ≤ c && c ≤ 'F')

/-- the number that digits write in a base -/
def numeral (base : Nat) (cs : List Char) : Nat :=
  cs.foldl (fun n c => n * base + (if c.isDigit then c.toNat - 48 else c.toLower.toNat - 87)) 0

/-- the code points that have a one-letter escape -/
def controlEscape? : Char → Option Nat
  | 'a' => some 7
  | 'b' => some 8
  | 'f' => some 12
  | 'n' => some 10
  | 'r' => some 13
  | 't' => some 9
  | 'v' => some 11
  | '\\' => some 92
  | _ => none

def categoryEscape? : Char → Option Item
  | 'd' => some (.category .digit false)
  | 'D' => some (.category .digit true)
  | 's' => some (.category .space false)
  | 'S' => some (.category .space true)
  | 'w' => some (.category .word false)
  | 'W' => some (.category .word true)
  | _ => none

def anchorEscape? : Char → Option Anchor
  | 'A' => some .textStart
  | 'b' => some .wordEdge
  | 'B' => some .noWordEdge
  | 'Z' => some .textEnd
  | _ => none

/-- refuses the escape that has just been read -/
def badEscape (escape : List Char) : Read α := refuse (.badEscape (String.ofList escape)) escape.length

/-- a code point in exactly `n` hexadecimal digits after an escape -/
def hexEscape (c : Char) (n : Nat) : Read Nat := do
  let ds ← run n isHex
  let escape := '\\' :: c :: ds
  if ds.length ≠ n then refuse (.incompleteEscape (String.ofList escape)) escape.length
  else if 0x110000 ≤ numeral 16 ds then badEscape escape
  else pure (numeral 16 ds)

/-- a character by its name -/
def namedEscape : Read Nat := do
  if !(← accept '\x7b') then refuse .missingBrace 0
  let n ← name '\x7d' "character name"
  match Characters.named? (String.ofList n) with
  | some c => pure c.toNat
  | none => refuse (.unknownCharacter (String.ofList n)) (n.length + 4)

/-- an escape for a single code point that means the same in a set and outside of one -/
def plainEscape (c : Char) : Read Nat := do
  match c with
  | 'x' => hexEscape 'x' 2
  | 'u' => hexEscape 'u' 4
  | 'U' => hexEscape 'U' 8
  | 'N' => namedEscape
  | c => if c.isAlpha || c.isDigit then badEscape ['\\', c] else pure c.toNat

/-- refuses an octal escape for more than eight bits -/
def octal (escape : List Char) : Read Nat := do
  let n := numeral 8 (escape.drop 1)
  if 0o377 < n then refuse (.octalTooGreat (String.ofList escape)) escape.length else pure n

def setEscape (c : Char) : Read Item := do
  match controlEscape? c, categoryEscape? c with
  | some n, _ => pure (.code n)
  | none, some i => pure i
  | none, none =>
    if isOctal c then
      let ds ← run 2 isOctal
      let n ← octal ('\\' :: c :: ds)
      pure (.code n)
    else
      let n ← plainEscape c
      pure (.code n)

/-- a reference to a group by its number, which ends the escape that has just been read -/
def numbered (escape : List Char) : Read Expr := do
  let g := numeral 10 (escape.drop 1)
  if g < (← get).widths.length then
    if !(← isClosed g) then refuse .openGroup escape.length
    checkBehind g
    pure (.reference g)
  else refuse (.invalidReference g) (escape.length - 1)

/-- an escape that begins with a digit: an octal number when it begins with zero or has three octal digits, else a
reference -/
def digitEscape (c : Char) : Read Expr := do
  if c = '0' then
    let ds ← run 2 isOctal
    pure (.code (numeral 8 (c :: ds)))
  else
    match ← run 1 Char.isDigit with
    | [d] =>
      if isOctal c && isOctal d then
        match ← run 1 isOctal with
        | [e] =>
          let n ← octal ['\\', c, d, e]
          pure (.code n)
        | _ => numbered ['\\', c, d]
      else numbered ['\\', c, d]
    | _ => numbered ['\\', c]

def escape (c : Char) : Read Expr := do
  match anchorEscape? c, categoryEscape? c, controlEscape? c with
  | some a, _, _ => pure (.anchor a)
  | none, some i, _ => pure (.chars false [i])
  | none, none, some n => pure (.code n)
  | none, none, none =>
    if c.isDigit then digitEscape c
    else
      let n ← plainEscape c
      pure (.code n)

/-! Sets -/

def setMember : Token → Read Item
  | .plain c => pure (.code c.toNat)
  | .escaped c => setEscape c

/-- the range between two members, both single code points -/
def range (this that : Token) (first last : Item) : Read Item := do
  let bad : Read Item :=
    refuse (.badRange (String.ofList this.chars) (String.ofList that.chars)) (this.chars.length + 1 + that.chars.length)
  match first, last with
  | .code a, .code b => if b < a then bad else pure (.range a b)
  | _, _ => bad

/-- the members of a set up to its closing bracket, which may stand as the first member -/
def members (start : Nat) (fuel : Nat) (found : List Item) : Read (List Item) := do
  match fuel with
  | 0 => pure found
  | fuel + 1 =>
    match ← token with
    | none => refuseAt start .unterminatedSet
    | some this =>
      if this = .plain ']' && !found.isEmpty then pure found
      else
        let first ← setMember this
        if ← accept '-' then
          match ← token with
          | none => refuseAt start .unterminatedSet
          | some (.plain ']') => pure (found ++ [first, .code 45])
          | some that =>
            let last ← setMember that
            let r ← range this that first last
            members start fuel (found ++ [r])
        else members start fuel (found ++ [first])

def set : Read Expr := do
  let start ← place
  let negated ← accept '^'
  let found ← members (start - 1) ((← get).rest.length + 1) []
  match negated, found.eraseDups with
  | false, [.code n] => pure (.code n)
  | _, items => pure (.chars negated items)

/-! Repetition -/

/-- a count that a repetition cannot have -/
def repeatLimit : Nat := 4294967295

def count (ds : List Char) : Read Nat := do
  match Number.ofDigits ds with
  | .error e => throw (.tooLong e)
  | .ok n => if repeatLimit ≤ n then throw .tooManyTimes else pure n

/-- the counts between braces, after the opening one; none when the brace stands for itself -/
def counts : Read (Option (Nat × Option Nat)) := do
  if ← sees '\x7d' then return none
  let here ← get
  let n ← place
  let lo ← run here.rest.length Char.isDigit
  let several ← accept ','
  let hi ← if several then run here.rest.length Char.isDigit else pure lo
  if !(← accept '\x7d') then
    moveTo here.rest
    return none
  let least ← if lo.isEmpty then pure 0 else count lo
  if hi.isEmpty then return some (least, none)
  let most ← count hi
  if most < least then refuseAt n .leastAboveMost
  return some (least, some most)

/-- the counts of a repetition from its first character; none when that stands for itself -/
def repetition? : Char → Read (Option (Nat × Option Nat))
  | '?' => pure (some (0, some 1))
  | '*' => pure (some (0, none))
  | '+' => pure (some (1, none))
  | _ => counts

/-- the last of the expressions so far, repeated; `start` is the place after the first character of the repetition -/
def repeated (start : Nat) (least : Nat) (most : Option Nat) : List Expr → Read (List Expr)
  | [] => refuseAt (start - 1) .nothingToRepeat
  | e :: es => do
    if e.isAnchor then refuseAt (start - 1) .nothingToRepeat
    if e.isAgain then refuseAt (start - 1) .repeatedTwice
    let greed ← (do
      if ← accept '?' then pure Greed.lazy
      else if ← accept '+' then pure Greed.possessive
      else pure Greed.greedy : Read Greed)
    pure (.again greed least most e :: es)

/-! Options -/

/-- refuses a token where an option letter is missing -/
def refuseFlag (what : String) : Option Token → Read α
  | none => refuse (.missing what) 0
  | some (.plain c) => refuse (if Text.isLetter c then .unknownFlag else .missing what) 1
  | some (.escaped _) => refuse (.missing what) 2

def flagOf? : Token → Option Flag
  | .plain c => Flag.ofLetter? c
  | .escaped _ => none

/-- the options to turn on from the first of them, and the character that ends them -/
def flagsOn (fuel : Nat) (f : Flag) (on : Flags) : Read (Flags × Char) := do
  match fuel with
  | 0 => pure (on, ')')
  | fuel + 1 =>
    if f = .locale then refuse .localeFlag 0
    let on := on ++ [f]
    if f.isAlphabet && on.any fun g => g.isAlphabet && g ≠ f then refuse .alphabetsTogether 0
    match ← token with
    | some (.plain ')') => pure (on, ')')
    | some (.plain '-') => pure (on, '-')
    | some (.plain ':') => pure (on, ':')
    | t =>
      match t.bind flagOf? with
      | some g => flagsOn fuel g on
      | none => refuseFlag "-, : or )" t

/-- the options to turn off from the first of them, up to the colon -/
def flagsOff (fuel : Nat) (f : Flag) (off : Flags) : Read Flags := do
  match fuel with
  | 0 => pure off
  | fuel + 1 =>
    if f.isAlphabet then refuse .alphabetOff 0
    let off := off ++ [f]
    match ← token with
    | some (.plain ':') => pure off
    | t =>
      match t.bind flagOf? with
      | some g => flagsOff fuel g off
      | none => refuseFlag ":" t

/-- options in a group; none when they hold for the whole pattern, of which they then become a part -/
def flags (t : Token) : Read (Option (Flags × Flags)) := do
  let n := (← get).rest.length + 1
  let (on, ending) ← match flagOf? t with
    | some f => flagsOn n f []
    | none => pure ([], '-')
  if ending = ')' then
    modify fun p => { p with flags := p.flags ++ on }
    return none
  if on.contains .template then refuse .globalFlagOn 1
  if ending ≠ '-' then return some (on, [])
  let t ← token
  let off ← match t.bind flagOf? with
    | some f => flagsOff n f []
    | none => refuseFlag "flag" t
  if off.contains .template then refuse .globalFlagOff 1
  if on.any off.contains then refuse .flagOnAndOff 1
  return some (on, off)

/-! Groups -/

/-- opens a group and gives it the next number -/
def openGroup (n : Option (List Char)) : Read Nat := do
  let p ← get
  let g := p.widths.length
  set { p with widths := p.widths ++ [none] }
  match n with
  | none => pure g
  | some cs =>
    let text := String.ofList cs
    match p.names.lookup text with
    | some former => refuse (.nameTaken text g former) (cs.length + 1)
    | none =>
      modify fun p => { p with names := p.names ++ [(text, g)] }
      pure g
where
  set (p : Progress) : Read Unit := modify fun _ => p

def closeGroup (g : Nat) (body : Expr) : Read Unit :=
  modify fun p => { p with widths := p.widths.set g (some (body.width p.widths)) }

def groupNamed (n : List Char) : Read Nat := do
  match (← get).names.lookup (String.ofList n) with
  | some g => pure g
  | none => refuse (.unknownGroup (String.ofList n)) (n.length + 1)

def groupLimit : Nat := 1073741823

/-- the group that a condition asks for, by name or by number -/
def condition : Read Nat := do
  let n ← name ')' "group name"
  if Text.isIdentifier n then groupNamed n
  else
    match Number.readInt (String.ofList n) with
    | .error _ => refuse (.badName (String.ofList n)) (n.length + 1)
    | .ok i =>
      if i < 0 then refuse (.badName (String.ofList n)) (n.length + 1)
      let g := i.toNat
      if g = 0 then refuse .badGroupNumber (n.length + 1)
      if groupLimit ≤ g then refuse (.invalidReference g) (n.length + 1)
      let here ← place
      modify fun p =>
        if p.conditions.any (·.1 = g) then p else { p with conditions := p.conditions ++ [(g, here - n.length - 1)] }
      pure g

/-- skips a comment in a group that began at a place -/
def comment (start fuel : Nat) : Read Unit := do
  match fuel with
  | 0 => pure ()
  | fuel + 1 =>
    match ← token with
    | none => refuseAt start .unterminatedComment
    | some (.plain ')') => pure ()
    | some _ => comment start fuel

def line (fuel : Nat) : Read Unit := do
  match fuel with
  | 0 => pure ()
  | fuel + 1 =>
    match ← token with
    | none => pure ()
    | some (.plain '\n') => pure ()
    | some _ => line fuel

/-- the closing parenthesis of a group that began at a place -/
def close (start : Nat) : Read Unit := do
  if !(← accept ')') then refuseAt start .unterminatedGroup

/-- the token after the opening of a special group -/
def inGroup : Read Token := do
  match ← token with
  | some t => pure t
  | none => refuse .endOfPattern 0

/-- what a group turns out to be once its head has been read -/
inductive Head
  | nothing
  | globalFlags
  | reference (g : Nat)
  | look (behind negated : Bool)
  | condition (g : Nat)
  | atomic
  | plain (name : Option (List Char)) (captures : Bool) (on off : Flags)

/-- the head of a group with a name or of a reference by name -/
def namedHead : Read Head := do
  if ← accept '<' then
    let n ← name '>' "group name"
    checkName n
    return .plain (some n) true [] []
  if ← accept '=' then
    let n ← name ')' "group name"
    checkName n
    let g ← groupNamed n
    if !(← isClosed g) then refuse .openGroup (n.length + 1)
    checkBehind g
    return .reference g
  let t ← inGroup
  refuse (.unknownExtension ("?P" ++ String.ofList t.chars)) (t.chars.length + 2)

def behindHead : Read Head := do
  match ← inGroup with
  | .plain '=' => pure (.look true false)
  | .plain '!' => pure (.look true true)
  | t => refuse (.unknownExtension ("?<" ++ String.ofList t.chars)) (t.chars.length + 2)

/-- the head of a group that began at a place -/
def head (start : Nat) : Read Head := do
  if !(← accept '?') then return .plain none true [] []
  match ← inGroup with
  | .plain 'P' => namedHead
  | .plain ':' => pure (.plain none false [] [])
  | .plain '#' =>
    comment start ((← get).rest.length + 1)
    pure .nothing
  | .plain '=' => pure (.look false false)
  | .plain '!' => pure (.look false true)
  | .plain '<' => behindHead
  | .plain '(' =>
    let g ← condition
    checkBehind g
    pure (.condition g)
  | .plain '>' => pure .atomic
  | t =>
    if (flagOf? t).isSome || t = .plain '-' then
      match ← flags t with
      | none => pure .globalFlags
      | some (on, off) => pure (.plain none false on off)
    else refuse (.unknownExtension ("?" ++ String.ofList t.chars)) (t.chars.length + 1)

/-- true of the characters that a verbose pattern skips -/
def isMargin (c : Char) : Bool := c = ' ' || ('\t' ≤ c && c ≤ '\r')

mutual

/-- alternatives; `top` tells whether they make up the whole pattern and `first` whether none came before -/
def alternatives (fuel : Nat) (top first verbose : Bool) : Read Expr := do
  match fuel with
  | 0 => pure .empty
  | fuel + 1 =>
    let e ← items fuel (top && first) verbose []
    if ← accept '|' then
      let p ← get
      let more ← alternatives fuel top false (if top then p.flags.contains .verbose else verbose)
      pure (.alt e more)
    else pure e

/-- expressions one after another; `found` holds those so far, the last one first, and `first` tells whether options for
the whole pattern may still come -/
def items (fuel : Nat) (first verbose : Bool) (found : List Expr) : Read Expr := do
  match fuel with
  | 0 => pure .empty
  | fuel + 1 =>
    match ← peek with
    | none => pure (.sequence found.reverse)
    | some (.plain '|') => pure (.sequence found.reverse)
    | some (.plain ')') => pure (.sequence found.reverse)
    | some t =>
      let _ ← token
      match t with
      | .escaped c =>
        let e ← escape c
        items fuel first verbose (e :: found)
      | .plain c =>
        if verbose && isMargin c then items fuel first verbose found
        else if verbose && c = '#' then
          line ((← get).rest.length + 1)
          items fuel first verbose found
        else
          match c with
          | '[' =>
            let e ← set
            items fuel first verbose (e :: found)
          | '.' => items fuel first verbose (.anyChar :: found)
          | '^' => items fuel first verbose (.anchor .lineStart :: found)
          | '$' => items fuel first verbose (.anchor .lineEnd :: found)
          | '(' => group fuel first verbose found
          | c =>
            if c = '*' || c = '+' || c = '?' || c = '\x7b' then
              let start ← place
              match ← repetition? c with
              | none => items fuel first verbose (.code c.toNat :: found)
              | some (least, most) =>
                let now ← repeated start least most found
                items fuel first verbose now
            else items fuel first verbose (.code c.toNat :: found)

/-- a group after its opening parenthesis, and what follows it -/
def group (fuel : Nat) (first verbose : Bool) (found : List Expr) : Read Expr := do
  match fuel with
  | 0 => pure .empty
  | fuel + 1 =>
    let start := (← place) - 1
    match ← head start with
    | .nothing => items fuel first verbose found
    | .globalFlags =>
      if !first || !found.isEmpty then refuseAt start .lateFlags
      items fuel first ((← get).flags.contains .verbose) found
    | .reference g => items fuel first verbose (.reference g :: found)
    | .look behind negated =>
      let outer := (← get).behind
      if behind && outer.isNone then modify fun p => { p with behind := some p.widths.length }
      let body ← alternatives fuel false true verbose
      if behind && outer.isNone then modify fun p => { p with behind := none }
      close start
      items fuel first verbose (.look behind negated body :: found)
    | .condition g =>
      let yes ← items fuel false verbose []
      let no ← (do
        if ← accept '|' then
          let no ← items fuel false verbose []
          if ← sees '|' then refuse .tooManyBranches 0
          pure no
        else pure .empty : Read Expr)
      close start
      items fuel first verbose (.provided g yes no :: found)
    | .atomic =>
      let body ← alternatives fuel false true verbose
      close start
      items fuel first verbose (.atomic body :: found)
    | .plain name captures on off =>
      let index ← if captures then some <$> openGroup name else pure none
      let inner := (verbose || on.contains .verbose) && !off.contains .verbose
      let body ← alternatives fuel false true inner
      close start
      match index with
      | some g => closeGroup g body
      | none => pure ()
      items fuel first verbose (.group index on off body :: found)

end

end Read

/-- refuses what a tree may not hold: a look-behind of no fixed width, and a repetition in a template -/
def Expr.check (widths : List (Option Width)) (template : Bool) : Expr → Except Refusal Unit
  | .seq a b => do
    a.check widths template
    b.check widths template
  | .alt a b => do
    a.check widths template
    b.check widths template
  | .group _ _ _ body => body.check widths template
  | .atomic body => body.check widths template
  | .again greed _ _ body =>
    if template then throw (.malformed (.templateRepeat (kindOf greed)) none) else body.check widths template
  | .look behind _ body => do
    if behind then
      let w := body.width widths
      if 2 ^ 32 - 1 < w.least then throw (.malformed .farLookBehind none)
      if w.least ≠ w.most then throw (.malformed .looseLookBehind none)
    body.check widths template
  | .provided _ yes no => do
    yes.check widths template
    no.check widths template
  | _ => pure ()
where
  kindOf : Greed → String
    | .greedy => "MAX_REPEAT"
    | .lazy => "MIN_REPEAT"
    | .possessive => "POSSESSIVE_REPEAT"

def Read.whole : Read Pattern := do
  moveTo (← get).rest
  let body ← alternatives (4 * (← get).rest.length + 4) true true false
  let p ← get
  if p.flags.contains .ascii && p.flags.contains .unicode then throw .twoAlphabets
  if !p.rest.isEmpty then refuse .unbalanced 0
  match p.conditions.find? fun c => p.widths.length ≤ c.1 with
  | some (g, n) => refuseAt n (.invalidReference g)
  | none => pure ()
  let flags := if p.flags.contains .ascii then p.flags else .unicode :: p.flags
  match body.check p.widths (flags.contains .template) with
  | .error e => throw e
  | .ok () => pure ⟨body, flags, p.names, p.widths⟩

/-- the pattern that a text writes, as far as the grammar goes -/
def grammar (text : List Char) : Except Refusal Pattern :=
  (StateT.run Read.whole ⟨text.length, text, [], [], [none], none, []⟩).map (·.1)

/-- a name up to the brace that closes it -/
def nameUpTo : List Char → List Char
  | '\\' :: c :: cs => '\\' :: c :: nameUpTo cs
  | '\x7d' :: _ => []
  | c :: cs => c :: nameUpTo cs
  | [] => []

def namesIn : List Char → List String
  | '\\' :: 'N' :: '\x7b' :: cs => String.ofList (nameUpTo cs) :: namesIn cs
  | _ :: cs => namesIn cs
  | [] => []

/-- characters by their names -/
@[reducible]
def charactersOf (found : List (String × Option Char)) : Characters := ⟨fun name => (found.lookup name).join⟩

section

variable [Interpreter]

/-- the characters that are named in a text -/
@[reducible]
def charactersIn (text : List Char) : Characters :=
  charactersOf ((namesIn text).map fun name => (name, Interpreter.named? name))

/-- the pattern that a text writes, if the stack is large enough for reading it -/
def read (text : List Char) : Except Refusal Pattern :=
  match Interpreter.overrun? .pattern text with
  | some m => .error (.tooDeep m)
  | none => @grammar (charactersIn text) text

end

end ChangeLint.Pattern
