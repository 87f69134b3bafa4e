/-
What a script holds, as far as its documentation is concerned: classes and functions, the statements that hold others, and
texts that stand alone.
-/
namespace ChangeLint.Script

/-- a parameter of a function and the line of its name -/
structure Parameter where
  name : String
  line : Nat
deriving DecidableEq, Repr

/-- the parameters of a function, by how they are given; one that is starred takes what is left of either kind -/
structure Parameters where
  byPosition : List Parameter
  byEither : List Parameter
  byName : List Parameter
  morePositions : Option Parameter
  moreNames : Option Parameter
deriving DecidableEq, Repr

namespace Parameters

def empty : Parameters := ⟨[], [], [], none, none⟩

def all (ps : Parameters) : List Parameter :=
  ps.byPosition ++ ps.byEither ++ ps.byName ++ ps.morePositions.toList ++ ps.moreNames.toList

end Parameters

/-- a statement; a compound one holds those of all its blocks -/
inductive Statement
  | classOf (name : String) (line : Nat) (body : List Statement)
  | function (name : String) (line : Nat) (parameters : Parameters) (body : List Statement)
  | compound (inner : List Statement)
  | text (s : List Char)
  | plain
deriving Repr

/-- an expression, as far as it matters whether something can be assigned to it and whether it is a text; a place is an
attribute or an item of something -/
inductive Form
  | name
  | place
  | text (s : List Char)
  | tuple (items : List Form)
  | list (items : List Form)
  | starred (inner : Form)
  | other
deriving Repr

namespace Form

/-- true of what one value can be assigned to -/
def isSingle : Form → Bool
  | name | place => true
  | _ => false

mutual

/-- true of what can be assigned to, one star being allowed in front of each item -/
def isTarget : Form → Bool
  | name | place => true
  | tuple items | list items => areTargets items
  | starred inner => isUnstarred inner
  | text _ | other => false

/-- true of what can be assigned to and has no star -/
def isUnstarred : Form → Bool
  | name | place => true
  | tuple items | list items => areTargets items
  | starred _ | text _ | other => false

def areTargets : List Form → Bool
  | [] => true
  | f :: fs => isTarget f && areTargets fs

end

mutual

/-- true of what can be deleted -/
def isDeletable : Form → Bool
  | name | place => true
  | tuple items | list items => areDeletable items
  | starred _ | text _ | other => false

def areDeletable : List Form → Bool
  | [] => true
  | f :: fs => isDeletable f && areDeletable fs

end

end Form

end ChangeLint.Script
