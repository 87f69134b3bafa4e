/-
What the groups of a pattern capture, read off its tree.

Three questions about an expression can be answered from its tree alone: does it take digits only, does it take something,
and does it leave a group captured. The answers are cautious: a reference, for one, may take anything. Each is sound for
every way in which the expression can match, and so for every match.

Results:
- `Way.isDigit_of_takesDigits`, `Way.ne_nil_of_takesSome`: what an expression takes;
- `Way.isSome_captured?`: a group that is always captured is captured after every way;
- `Way.of_captured?`: what a group has captured is what one of its bodies takes.
-/
import ChangeLint.Proofs.Number.Digit
import ChangeLint.Proofs.Pattern.Way

namespace ChangeLint.Pattern

/-- true of code points of decimal digits of ASCII -/
def isDigitCode (n : Nat) : Bool := 48 ≤ n && n ≤ 57

/-- true of members of a set that hold decimal digits only; `exact` tells that letters of either case are not the same -/
def Item.isDigits (exact : Bool) : Item → Bool
  | .code n => exact && isDigitCode n
  | .range first last => exact && isDigitCode first && isDigitCode last
  | .category .digit negated => !negated
  | .category _ _ => false

namespace Expr

/-- true of expressions that take decimal digits only -/
def takesDigits (flags : Flags) : Expr → Bool
  | empty | anchor _ | look _ _ _ => true
  | code n => !flags.contains .ignoreCase && isDigitCode n
  | anyChar | reference _ => false
  | chars negated items => !negated && items.all (Item.isDigits !flags.contains .ignoreCase)
  | seq a b | alt a b | provided _ a b => a.takesDigits flags && b.takesDigits flags
  | group _ on off body => body.takesDigits (flags.combine on off)
  | atomic body | again _ _ _ body => body.takesDigits flags

/-- true of expressions that take a character at least -/
def takesSome : Expr → Bool
  | code _ | anyChar | chars _ _ => true
  | empty | anchor _ | look _ _ _ | reference _ => false
  | seq a b => a.takesSome || b.takesSome
  | alt a b | provided _ a b => a.takesSome && b.takesSome
  | group _ _ _ body | atomic body => body.takesSome
  | again _ least _ body => 0 < least && body.takesSome

/-- true of expressions after which a group is always captured -/
def captures (g : Nat) : Expr → Bool
  | empty | code _ | anyChar | chars _ _ | anchor _ | reference _ => false
  | seq a b => a.captures g || b.captures g
  | alt a b | provided _ a b => a.captures g && b.captures g
  | group index _ _ body => index = some g || body.captures g
  | atomic body => body.captures g
  | again _ least _ body => 0 < least && body.captures g
  | look _ negated body => !negated && body.captures g

/-- every expression that makes up a group passes a test -/
def bodiesPass (g : Nat) (test : Flags → Expr → Bool) (flags : Flags) : Expr → Bool
  | empty | code _ | anyChar | chars _ _ | anchor _ | reference _ => true
  | seq a b | alt a b | provided _ a b => a.bodiesPass g test flags && b.bodiesPass g test flags
  | group index on off body =>
    (index ≠ some g || test (flags.combine on off) body) && body.bodiesPass g test (flags.combine on off)
  | atomic body | again _ _ _ body | look _ _ body => body.bodiesPass g test flags

end Expr

variable {widths : List (Option Width)} {flags : Flags} {e : Expr} {s r : State} {u : List Char} {c : Char} {g : Nat}

/-! ## What is taken -/

theorem isDigit_of_isDigitCode (h : isDigitCode c.toNat = true) : Text.isDigit c = true := by
  rw [isDigitCode, Bool.and_eq_true, decide_eq_true_eq, decide_eq_true_eq] at h
  exact Text.isDigit_of_ascii h

theorem candidates_eq (h : flags.contains .ignoreCase = false) : candidates flags c = [c.toNat] := by
  rw [candidates, h, if_neg Bool.false_ne_true]

theorem Item.isDigit_of_has {ascii : Bool} {i : Item} (hi : i.isDigits (!flags.contains .ignoreCase) = true)
    (h : i.has ascii (candidates flags c) c = true) : Text.isDigit c = true := by
  cases i with
  | code n =>
    simp only [Item.isDigits, Bool.and_eq_true, Bool.not_eq_true'] at hi
    rw [Item.has, candidates_eq hi.1, List.contains_iff_mem, List.mem_singleton] at h
    exact isDigit_of_isDigitCode (h ▸ hi.2)
  | range first last =>
    simp only [Item.isDigits, isDigitCode, Bool.and_eq_true, Bool.not_eq_true', decide_eq_true_eq] at hi
    rw [Item.has, candidates_eq hi.1.1] at h
    simp only [List.any_cons, List.any_nil, Bool.or_false, Bool.and_eq_true, decide_eq_true_eq] at h
    exact Text.isDigit_of_ascii ⟨by omega, by omega⟩
  | category k negated =>
    cases k with
    | space | word => cases hi
    | digit =>
      cases negated with
      | true => cases hi
      | false =>
        rw [Item.has, Category.has, Bool.bne_false] at h
        split at h
        · exact Text.isDigit_of_isDigit_ascii h
        · exact h

/-- **An expression of digits takes digits only** -/
theorem Way.isDigit_of_takesDigits (h : Way widths flags e s u r) (he : e.takesDigits flags = true) :
    ∀ c ∈ u, Text.isDigit c = true := by
  induction h with
  | empty | anchor | stop | look | noLook => exact fun c hc => absurd hc List.not_mem_nil
  | anyChar | reference => cases he
  | code _ hcode =>
    simp only [Expr.takesDigits, Bool.and_eq_true, Bool.not_eq_true'] at he
    rw [candidates_eq he.1, List.contains_iff_mem, List.mem_singleton] at hcode
    intro c hc
    rw [List.mem_singleton] at hc
    exact isDigit_of_isDigitCode (by rw [hc, ← hcode]; exact he.2)
  | chars _ hset =>
    simp only [Expr.takesDigits, Bool.and_eq_true, Bool.not_eq_true', List.all_eq_true] at he
    rw [setHas, he.1, Bool.bne_false, List.any_eq_true] at hset
    obtain ⟨i, hi, hhas⟩ := hset
    intro c hc
    rw [List.mem_singleton] at hc
    exact hc ▸ Item.isDigit_of_has (he.2 i hi) hhas
  | left _ ih => exact ih (Bool.and_eq_true_iff.1 he).1
  | right _ ih => exact ih (Bool.and_eq_true_iff.1 he).2
  | yes _ _ ih => exact ih (Bool.and_eq_true_iff.1 he).1
  | no _ _ ih => exact ih (Bool.and_eq_true_iff.1 he).2
  | group _ ih | capture _ ih | atomic _ ih => exact ih he
  | seq _ _ ih₁ ih₂ =>
    have hboth := Bool.and_eq_true_iff.1 he
    exact fun c hc => (List.mem_append.1 hc).elim (ih₁ hboth.1 c) (ih₂ hboth.2 c)
  | must _ _ ih₁ ih₂ | may _ _ _ ih₁ ih₂ => exact fun c hc => (List.mem_append.1 hc).elim (ih₁ he c) (ih₂ he c)

/-- **An expression that takes something** takes a character at least -/
theorem Way.ne_nil_of_takesSome (h : Way widths flags e s u r) (he : e.takesSome = true) : u ≠ [] := by
  induction h with
  | empty | anchor | look | noLook | reference => cases he
  | code | anyChar | chars => exact List.cons_ne_nil _ _
  | left _ ih => exact ih (Bool.and_eq_true_iff.1 he).1
  | right _ ih => exact ih (Bool.and_eq_true_iff.1 he).2
  | yes _ _ ih => exact ih (Bool.and_eq_true_iff.1 he).1
  | no _ _ ih => exact ih (Bool.and_eq_true_iff.1 he).2
  | group _ ih | capture _ ih | atomic _ ih => exact ih he
  | seq _ _ ih₁ ih₂ =>
    rcases Bool.or_eq_true_iff.1 he with ha | hb
    · exact List.append_ne_nil_of_left_ne_nil (ih₁ ha) _
    · exact List.append_ne_nil_of_right_ne_nil _ (ih₂ hb)
  | must _ _ ih => exact List.append_ne_nil_of_left_ne_nil (ih (Bool.and_eq_true_iff.1 he).2) _
  -- a repetition that may be left out is not known to take anything
  | stop | may => exact absurd (Bool.and_eq_true_iff.1 he).1 (by decide)

/-! ## What is captured -/

theorem State.captured?_capture (text : List Char) : (s.capture g text).captured? g = some text := by
  simp [State.captured?, State.capture]

theorem State.captured?_capture_of_ne {g' : Nat} (h : g ≠ g') (text : List Char) :
    (s.capture g' text).captured? g = s.captured? g := by
  simp [State.captured?, State.capture, List.lookup_cons, beq_false_of_ne h]

theorem State.groups_back? {n : Nat} (h : s.back? n = some r) : r.groups = s.groups := by
  induction n generalizing s with
  | zero =>
    cases h
    rfl
  | succ n ih =>
    rw [State.back?] at h
    split at h
    · cases h
    · have hgroups := ih h
      exact hgroups

theorem State.groups_lookFrom {behind : Bool} {body : Expr} (h : s.lookFrom widths behind body = some r) :
    r.groups = s.groups := by
  rw [State.lookFrom] at h
  split at h
  · exact State.groups_back? h
  · cases h
    rfl

/-- a look begins with what has been captured -/
theorem State.captured?_lookFrom {behind : Bool} {body : Expr} (h : s.lookFrom widths behind body = some r) :
    r.captured? g = s.captured? g := congrArg (List.lookup g) (State.groups_lookFrom h)

/-- **A captured group stays captured** -/
theorem Way.keeps (h : Way widths flags e s u r) (hs : (s.captured? g).isSome = true) :
    (r.captured? g).isSome = true := by
  induction h with
  | empty | code | anyChar | chars | anchor | stop | noLook | reference => exact hs
  | left _ ih | right _ ih | group _ ih | atomic _ ih | yes _ _ ih | no _ _ ih => exact ih hs
  | seq _ _ ih₁ ih₂ | must _ _ ih₁ ih₂ | may _ _ _ ih₁ ih₂ => exact ih₂ (ih₁ hs)
  | look hbegins _ ih => exact ih ((State.captured?_lookFrom hbegins).symm ▸ hs)
  | @capture _ g' _ _ _ _ u _ _ ih =>
    by_cases hg : g = g'
    · rw [hg, State.captured?_capture]
      rfl
    · rw [State.captured?_capture_of_ne hg]
      exact ih hs

/-- **A group that is always captured** is captured after every way -/
theorem Way.isSome_captured? (h : Way widths flags e s u r) (he : e.captures g = true) :
    (r.captured? g).isSome = true := by
  induction h with
  | empty | code | anyChar | chars | anchor | reference | noLook => cases he
  | stop | may => exact absurd (Bool.and_eq_true_iff.1 he).1 (by decide)
  | left _ ih => exact ih (Bool.and_eq_true_iff.1 he).1
  | right _ ih => exact ih (Bool.and_eq_true_iff.1 he).2
  | yes _ _ ih => exact ih (Bool.and_eq_true_iff.1 he).1
  | no _ _ ih => exact ih (Bool.and_eq_true_iff.1 he).2
  | atomic _ ih => exact ih he
  | look _ _ ih => exact ih he
  | group _ ih => exact ih he
  | seq _ hsecond ih₁ ih₂ =>
    rcases Bool.or_eq_true_iff.1 he with ha | hb
    · exact hsecond.keeps (ih₁ ha)
    · exact ih₂ hb
  | must _ hmore ih => exact hmore.keeps (ih (Bool.and_eq_true_iff.1 he).2)
  | @capture _ g' _ _ _ _ u _ _ ih =>
    by_cases hg : g = g'
    · rw [hg, State.captured?_capture]
      rfl
    · rw [State.captured?_capture_of_ne hg]
      refine ih ((Bool.or_eq_true_iff.1 he).resolve_left ?_)
      simpa using Ne.symm hg

/-- **What a group has captured** is what one of its bodies takes, if it was so before -/
theorem Way.of_captured? {test : Flags → Expr → Bool} {P : List Char → Prop}
    (htest : ∀ {flags body s u r}, test flags body = true → Way widths flags body s u r → P u)
    (h : Way widths flags e s u r) (he : e.bodiesPass g test flags = true) (hs : ∀ text, s.captured? g = some text → P text) :
    ∀ text, r.captured? g = some text → P text := by
  induction h with
  | empty | code | anyChar | chars | anchor | stop | noLook | reference => exact hs
  | left _ ih => exact ih (Bool.and_eq_true_iff.1 he).1 hs
  | right _ ih => exact ih (Bool.and_eq_true_iff.1 he).2 hs
  | yes _ _ ih => exact ih (Bool.and_eq_true_iff.1 he).1 hs
  | no _ _ ih => exact ih (Bool.and_eq_true_iff.1 he).2 hs
  | group _ ih => exact ih (Bool.and_eq_true_iff.1 he).2 hs
  | atomic _ ih => exact ih he hs
  | look hbegins _ ih => exact ih he fun text htext => hs text ((State.captured?_lookFrom hbegins).symm ▸ htext)
  | seq _ _ ih₁ ih₂ =>
    have hboth := Bool.and_eq_true_iff.1 he
    exact ih₂ hboth.2 (ih₁ hboth.1 hs)
  | must _ _ ih₁ ih₂ | may _ _ _ ih₁ ih₂ => exact ih₂ he (ih₁ he hs)
  | @capture _ g' _ _ _ _ u _ hbody ih =>
    have hboth := Bool.and_eq_true_iff.1 he
    intro text htext
    by_cases hg : g = g'
    · rw [hg, State.captured?_capture] at htext
      cases htext
      refine htest ((Bool.or_eq_true_iff.1 hboth.1).resolve_left ?_) hbody
      simpa using hg.symm
    · rw [State.captured?_capture_of_ne hg] at htext
      exact ih hboth.2 hs text htext

end ChangeLint.Pattern
