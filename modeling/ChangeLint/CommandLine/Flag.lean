/-
Flags on a command line. A word that begins with a hyphen is a flag in one of its spellings: a long one, which may carry its
value behind an equals sign, or a bundle of short ones, of one letter each, the last of which may carry its value behind its
letter. A flag that takes a value and carries none takes the next word, whatever that is. Two hyphens end the flags.
-/
namespace ChangeLint.CommandLine

/-- a flag: what it is called here, its spellings, and whether it takes a value -/
structure Flag where
  key : String
  spellings : List String
  takesValue : Bool
deriving DecidableEq, Repr

/-- why words are no command line -/
inductive Usage
  | unknownFlag (spelling : String)
  | missingValue (spelling : String)
  | needlessValue (spelling : String)
  | missingCommand
  | unknownCommand (name : String)
  | missingFlag (key : String)
  | needlessWord (word : String)
  | badValue (key value : String)
deriving DecidableEq, Repr

/-- a flag as it was given, with its value if it takes one -/
structure Given where
  key : String
  value : Option String
deriving DecidableEq, Repr

/-- words read as flags and other words -/
structure Reading where
  given : List Given
  words : List String
deriving DecidableEq, Repr

namespace Flag

def find? (flags : List Flag) (spelling : String) : Option Flag := flags.find? fun f => f.spellings.contains spelling

/-- true of spellings with one hyphen and one letter -/
def isShort (spelling : String) : Bool := spelling.length = 2

def findLong? (flags : List Flag) (spelling : String) : Option Flag :=
  if isShort spelling then none else find? flags spelling

/-- the value of a flag from the words that follow it -/
def takeNext (f : Flag) (spelling : String) : List String → Except Usage (Given × List String)
  | [] => .error (.missingValue spelling)
  | v :: rest => .ok (⟨f.key, some v⟩, rest)

/-- the letters of a bundle, with the words that follow it -/
def readBundle (flags : List Flag) : List Char → List String → Except Usage (List Given × List String)
  | [], rest => .ok ([], rest)
  | c :: cs, rest =>
    let spelling := String.ofList ['-', c]
    match find? flags spelling with
    | none => .error (.unknownFlag spelling)
    | some f =>
      if f.takesValue then
        if cs.isEmpty then (f.takeNext spelling rest).map fun (g, rest) => ([g], rest)
        else .ok ([⟨f.key, some (String.ofList cs)⟩], rest)
      else (readBundle flags cs rest).map fun (gs, rest) => (⟨f.key, none⟩ :: gs, rest)

/-- a spelling and what stands behind the first equals sign, if there is one -/
def splitValue (word : List Char) : List Char × Option (List Char) :=
  let name := word.takeWhile (· != '=')
  match word.dropWhile (· != '=') with
  | [] => (name, none)
  | _ :: value => (name, some value)

/-- the flags in a word that begins with a hyphen, with the words that follow it -/
def readFlag (flags : List Flag) (word : String) (rest : List String) : Except Usage (List Given × List String) :=
  let (name, value) := splitValue word.toList
  let spelling := String.ofList name
  match findLong? flags spelling with
  | some f =>
    match f.takesValue, value with
    | true, some v => .ok ([⟨f.key, some (String.ofList v)⟩], rest)
    | true, none => (f.takeNext spelling rest).map fun (g, rest) => ([g], rest)
    | false, some _ => .error (.needlessValue spelling)
    | false, none => .ok ([⟨f.key, none⟩], rest)
  | none =>
    match word.toList with
    | '-' :: '-' :: _ => .error (.unknownFlag spelling)
    | _ :: letters => readBundle flags letters rest
    | [] => .error (.unknownFlag spelling)

def isFlag (word : String) : Bool := word.startsWith "-" && 1 < word.length

/-- reads words; unless flags may stand behind other words, the first of those ends the flags -/
def read (flags : List Flag) (anywhere : Bool) : (fuel : Nat) → List String → Except Usage Reading
  | 0, words => .ok ⟨[], words⟩
  | _, [] => .ok ⟨[], []⟩
  | fuel + 1, word :: rest =>
    if word = "--" then .ok ⟨[], rest⟩
    else if isFlag word then do
      let (given, rest) ← readFlag flags word rest
      let more ← read flags anywhere fuel rest
      pure ⟨given ++ more.given, more.words⟩
    else if anywhere then (read flags anywhere fuel rest).map fun r => ⟨r.given, word :: r.words⟩
    else .ok ⟨[], word :: rest⟩

end Flag

namespace Reading

def has (r : Reading) (key : String) : Bool := r.given.any fun g => g.key = key

/-- the values of a flag in the order in which they were given -/
def values (r : Reading) (key : String) : List String := (r.given.filter fun g => g.key = key).filterMap (·.value)

def value? (r : Reading) (key : String) : Option String := (r.values key).getLast?

end Reading

end ChangeLint.CommandLine
