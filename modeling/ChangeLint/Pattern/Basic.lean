/-
Patterns: regular expressions with groups, references, look-around and three kinds of repetition. An `Expr` is the tree of
a pattern, `Pattern` adds the options that hold for all of it and the names of its groups.

Characters are code points, so that a pattern may name one that no text holds.
-/
namespace ChangeLint.Pattern

/-- options, for a whole pattern or for a group -/
inductive Flag
  | ignoreCase
  | locale
  | multiline
  | dotAll
  | verbose
  | ascii
  | template
  | unicode
deriving DecidableEq, Repr

def Flag.letter : Flag → Char
  | .ignoreCase => 'i'
  | .locale => 'L'
  | .multiline => 'm'
  | .dotAll => 's'
  | .verbose => 'x'
  | .ascii => 'a'
  | .template => 't'
  | .unicode => 'u'

def Flag.all : List Flag := [.ignoreCase, .locale, .multiline, .dotAll, .verbose, .ascii, .template, .unicode]

def Flag.ofLetter? (c : Char) : Option Flag := Flag.all.find? fun f => f.letter = c

/-- true of the options that choose an alphabet; at most one of them holds at a time -/
def Flag.isAlphabet : Flag → Bool
  | .ascii | .unicode | .locale => true
  | _ => false

abbrev Flags := List Flag

/-- options with some turned on and some turned off; a new alphabet replaces the old one -/
def Flags.combine (flags on off : Flags) : Flags :=
  let kept := if on.any Flag.isAlphabet then flags.filter fun f => !f.isAlphabet else flags
  (kept ++ on).filter fun f => !off.contains f

/-- classes of characters with an escape of their own -/
inductive Category
  | digit
  | space
  | word
deriving DecidableEq, Repr

/-- a member of a character set -/
inductive Item
  | code (n : Nat)
  | range (first last : Nat)
  | category (k : Category) (negated : Bool)
deriving DecidableEq, Repr

/-- conditions on a place between characters -/
inductive Anchor
  | lineStart
  | lineEnd
  | textStart
  | textEnd
  | wordEdge
  | noWordEdge
deriving DecidableEq, Repr

/-- how a repetition chooses its count: the most first, the least first, or the most and never less -/
inductive Greed
  | greedy
  | lazy
  | possessive
deriving DecidableEq, Repr

inductive Expr
  | empty
  | code (n : Nat)
  | anyChar
  | chars (negated : Bool) (items : List Item)
  | anchor (a : Anchor)
  | seq (a b : Expr)
  | alt (a b : Expr)
  | group (index : Option Nat) (on off : Flags) (body : Expr)
  | atomic (body : Expr)
  | again (greed : Greed) (least : Nat) (most : Option Nat) (body : Expr)
  | look (behind negated : Bool) (body : Expr)
  | reference (index : Nat)
  | provided (index : Nat) (yes no : Expr)
deriving Repr

/-- the least and the greatest number of characters that something matches -/
structure Width where
  least : Nat
  most : Nat
deriving DecidableEq, Repr

/-- a width that counts as unbounded -/
def Width.limit : Nat := Nat.pow 2 64

/-- a width with both ends at most the limit -/
def Width.capped (least most : Nat) : Width := ⟨min least Width.limit, min most Width.limit⟩

namespace Expr

/-- the width of an expression, given those of the groups that it may refer to -/
def width (groups : List (Option Width)) : Expr → Width
  | empty => ⟨0, 0⟩
  | code _ => ⟨1, 1⟩
  | anyChar => ⟨1, 1⟩
  | chars _ _ => ⟨1, 1⟩
  | anchor _ => ⟨0, 0⟩
  | seq a b =>
    let v := a.width groups
    let w := b.width groups
    .capped (v.least + w.least) (v.most + w.most)
  | alt a b =>
    let v := a.width groups
    let w := b.width groups
    ⟨min v.least w.least, max v.most w.most⟩
  | group _ _ _ body => body.width groups
  | atomic body => body.width groups
  | again _ least most body =>
    let w := body.width groups
    match most with
    | some m => .capped (w.least * least) (w.most * m)
    | none => .capped (w.least * least) (if w.most = 0 then 0 else Width.limit)
  | look _ _ _ => ⟨0, 0⟩
  | reference i => ((groups[i]?).bind id).getD ⟨0, 0⟩
  | provided _ yes no =>
    let v := yes.width groups
    let w := no.width groups
    ⟨min v.least w.least, max v.most w.most⟩

def sequence : List Expr → Expr
  | [] => empty
  | [e] => e
  | e :: es => seq e (sequence es)

/-- true of conditions on a place -/
def isAnchor : Expr → Bool
  | anchor _ => true
  | _ => false

/-- true of repetitions -/
def isAgain : Expr → Bool
  | again _ _ _ _ => true
  | _ => false

end Expr

end Pattern

/-- a pattern: its tree, the options that hold for all of it, the names of its groups and the width of each group -/
structure Pattern where
  body : Pattern.Expr
  flags : Pattern.Flags
  names : List (String × Nat)
  widths : List (Option Pattern.Width)
deriving Repr

end ChangeLint
