/-
Ways to match.

`Way widths flags e s text r` tells that an expression, tried at a state `s`, can take a text and come to a state `r`. The
matcher tries ways in an order of preference and hands each to what is to follow. Which of them wins is left open here, and
so is what it costs to find it: what all ways have in common holds of every match.

Results:
- `Way.moves`: what is taken is what lies ahead, and afterwards it lies before;
- `way_of_match?`: every match is a way, after which what was to follow has matched;
- `way_of_search?`: the leftmost match is a way from some place in the text, where nothing has been captured yet.
-/
import ChangeLint.Pattern.Match
import Mathlib.Data.List.Forall2

namespace ChangeLint.Pattern

/-- true of letters that count as the same under some options -/
def sameLetter (flags : Flags) (c d : Char) : Bool :=
  if flags.contains .ignoreCase then
    small (!flags.contains .unicode) c.toNat == small (!flags.contains .unicode) d.toNat
  else c == d

/-- the state after a text that lies ahead, with the rest after it -/
def State.past (s : State) (text rest : List Char) : State := ⟨text.reverse ++ s.before, rest, s.groups⟩

/-- where a look begins: here, or as far back as its body is wide -/
def State.lookFrom (s : State) (widths : List (Option Width)) (behind : Bool) (body : Expr) : Option State :=
  if behind then s.back? (body.width widths).least else some s

/-- the ways in which an expression can match: where it starts, what it takes, and where it comes to -/
inductive Way (widths : List (Option Width)) : Flags → Expr → State → List Char → State → Prop
  | empty {flags s} : Way widths flags .empty s [] s
  | code {flags n s c rest} (ahead : s.ahead = c :: rest) (holds : (candidates flags c).contains n = true) :
      Way widths flags (.code n) s [c] (s.past [c] rest)
  | anyChar {flags s c rest} (ahead : s.ahead = c :: rest) (holds : (flags.contains .dotAll || c != '\n') = true) :
      Way widths flags .anyChar s [c] (s.past [c] rest)
  | chars {flags negated items s c rest} (ahead : s.ahead = c :: rest) (holds : setHas flags negated items c = true) :
      Way widths flags (.chars negated items) s [c] (s.past [c] rest)
  | anchor {flags a s} (holds : a.holds flags s = true) : Way widths flags (.anchor a) s [] s
  | seq {flags a b s t r u v} (first : Way widths flags a s u t) (second : Way widths flags b t v r) :
      Way widths flags (.seq a b) s (u ++ v) r
  | left {flags a b s u r} (way : Way widths flags a s u r) : Way widths flags (.alt a b) s u r
  | right {flags a b s u r} (way : Way widths flags b s u r) : Way widths flags (.alt a b) s u r
  | group {flags on off body s u r} (way : Way widths (flags.combine on off) body s u r) :
      Way widths flags (.group none on off body) s u r
  | capture {flags g on off body s u r} (way : Way widths (flags.combine on off) body s u r) :
      Way widths flags (.group (some g) on off body) s u (r.capture g u)
  | atomic {flags body s u r} (way : Way widths flags body s u r) : Way widths flags (.atomic body) s u r
  | stop {flags greed most body s} : Way widths flags (.again greed 0 most body) s [] s
  | must {flags greed least most body s t r u v} (turn : Way widths flags body s u t)
      (more : Way widths flags (.again greed least (most.map (· - 1)) body) t v r) :
      Way widths flags (.again greed (least + 1) most body) s (u ++ v) r
  | may {flags greed most body s t r u v} (spare : most ≠ some 0) (turn : Way widths flags body s u t)
      (more : Way widths flags (.again greed 0 (most.map (· - 1)) body) t v r) :
      Way widths flags (.again greed 0 most body) s (u ++ v) r
  | look {flags behind body s start u r} (begins : s.lookFrom widths behind body = some start)
      (way : Way widths flags body start u r) :
      Way widths flags (.look behind false body) s [] { s with groups := r.groups }
  | noLook {flags behind body s}
      (refused : (s.lookFrom widths behind body).bind (body.match? widths flags some) = none) :
      Way widths flags (.look behind true body) s [] s
  | reference {flags g s written text rest} (captured : s.captured? g = some written) (ahead : s.ahead = text ++ rest)
      (same : List.Forall₂ (fun c d => sameLetter flags c d = true) written text) :
      Way widths flags (.reference g) s text (s.past text rest)
  | yes {flags g yes no s u r} (captured : (s.captured? g).isSome = true) (way : Way widths flags yes s u r) :
      Way widths flags (.provided g yes no) s u r
  | no {flags g yes no s u r} (captured : (s.captured? g).isSome = false) (way : Way widths flags no s u r) :
      Way widths flags (.provided g yes no) s u r

variable {widths : List (Option Width)} {flags : Flags} {e body : Expr} {greed : Greed} {s r t : State} {u : List Char}
variable {k : Next} {p : Pattern}

/-! ## What is taken -/

/-- **A way takes what lies ahead**, and leaves it before -/
theorem Way.moves (h : Way widths flags e s u r) : s.ahead = u ++ r.ahead ∧ r.before = u.reverse ++ s.before := by
  induction h with
  | empty | anchor | stop | look | noLook => exact ⟨rfl, rfl⟩
  | code ahead | anyChar ahead | chars ahead => exact ⟨ahead, rfl⟩
  | reference _ ahead => exact ⟨ahead, rfl⟩
  | left _ ih | right _ ih | group _ ih | capture _ ih | atomic _ ih | yes _ _ ih | no _ _ ih => exact ih
  | seq _ _ ih₁ ih₂ | must _ _ ih₁ ih₂ | may _ _ _ ih₁ ih₂ =>
    refine ⟨?_, ?_⟩
    · rw [ih₁.1, ih₂.1, List.append_assoc]
    · rw [ih₂.2, ih₁.2, List.reverse_append, List.append_assoc]

/-- what a group captures is what its body has taken -/
theorem Way.since_eq (h : Way widths flags e s u r) : r.since s.place = u := by
  have hbefore := h.moves.2
  have hcount : r.place - s.place = u.reverse.length := by
    rw [State.place, State.place, hbefore, List.length_append, Nat.add_sub_cancel]
  rw [State.since, hcount, hbefore, List.take_left, List.reverse_reverse]

/-! ## Every match is a way -/

/-- what the matcher finds for an expression are ways of it, after which what is to follow has matched -/
def Finds (widths : List (Option Width)) (flags : Flags) (e : Expr) (m : Next → Next) : Prop :=
  ∀ {k : Next} {s t : State}, m k s = some t → ∃ u r, Way widths flags e s u r ∧ k r = some t

theorem one_eq_some {holds : Char → Bool} (h : one holds k s = some t) :
    ∃ c rest, s.ahead = c :: rest ∧ holds c = true ∧ k (s.past [c] rest) = some t := by
  unfold one at h
  split at h
  · cases h
  · next c rest hahead =>
    split at h
    · next hc => exact ⟨c, rest, hahead, hc, h⟩
    · cases h

theorem finds_one {holds : Char → Bool}
    (hway : ∀ {s : State} {c rest}, s.ahead = c :: rest → holds c = true → Way widths flags e s [c] (s.past [c] rest)) :
    Finds widths flags e (one holds) := by
  intro k s t h
  obtain ⟨c, rest, hahead, hc, hk⟩ := one_eq_some h
  exact ⟨[c], _, hway hahead hc, hk⟩

theorem verbatim_eq_some {written : List Char} (h : verbatim flags written k s = some t) :
    ∃ text rest, s.ahead = text ++ rest ∧ List.Forall₂ (fun c d => sameLetter flags c d = true) written text ∧
      k (s.past text rest) = some t := by
  induction written generalizing s with
  | nil => exact ⟨[], s.ahead, rfl, .nil, h⟩
  | cons c written ih =>
    obtain ⟨d, rest, hahead, hsame, h⟩ := one_eq_some h
    obtain ⟨text, rest', hrest, hall, h⟩ := ih h
    refine ⟨d :: text, rest', ?_, .cons hsame hall, ?_⟩
    · rw [hahead, List.cons_append, ← hrest]
      rfl
    · simpa [State.past] using h

theorem finds_reference (g : Nat) : Finds widths flags (.reference g) ((Expr.reference g).match? widths flags) := by
  intro k s t h
  rw [Expr.match?] at h
  beta_reduce at h
  split at h
  · next written hcaptured =>
    obtain ⟨text, rest, hahead, hsame, hk⟩ := verbatim_eq_some h
    exact ⟨text, _, .reference hcaptured hahead hsame, hk⟩
  · cases h

theorem finds_anchor (a : Anchor) : Finds widths flags (.anchor a) ((Expr.anchor a).match? widths flags) := by
  intro k s t h
  rw [Expr.match?] at h
  beta_reduce at h
  split at h
  · next ha => exact ⟨[], s, .anchor ha, h⟩
  · cases h

section

variable {a b : Expr} (ha : Finds widths flags a (a.match? widths flags)) (hb : Finds widths flags b (b.match? widths flags))

include ha hb

theorem finds_seq : Finds widths flags (.seq a b) ((Expr.seq a b).match? widths flags) := by
  intro k s t h
  obtain ⟨u, r₁, hfirst, h⟩ := ha h
  obtain ⟨v, r, hsecond, hk⟩ := hb h
  exact ⟨u ++ v, r, .seq hfirst hsecond, hk⟩

theorem finds_alt : Finds widths flags (.alt a b) ((Expr.alt a b).match? widths flags) := by
  intro k s t h
  rw [Expr.match?] at h
  beta_reduce at h
  split at h
  · next t' hleft =>
    cases h
    obtain ⟨u, r, hway, hk⟩ := ha hleft
    exact ⟨u, r, .left hway, hk⟩
  · obtain ⟨u, r, hway, hk⟩ := hb h
    exact ⟨u, r, .right hway, hk⟩

theorem finds_provided (g : Nat) : Finds widths flags (.provided g a b) ((Expr.provided g a b).match? widths flags) := by
  intro k s t h
  rw [Expr.match?] at h
  beta_reduce at h
  split at h
  · next hcaptured =>
    obtain ⟨u, r, hway, hk⟩ := ha h
    exact ⟨u, r, .yes hcaptured hway, hk⟩
  · next hcaptured =>
    obtain ⟨u, r, hway, hk⟩ := hb h
    exact ⟨u, r, .no (Bool.eq_false_iff.2 hcaptured) hway, hk⟩

end

theorem finds_group {index : Option Nat} {on off : Flags}
    (hbody : Finds widths (flags.combine on off) body (body.match? widths (flags.combine on off))) :
    Finds widths flags (.group index on off body) ((Expr.group index on off body).match? widths flags) := by
  intro k s t h
  cases index with
  | none =>
    obtain ⟨u, r, hway, hk⟩ := hbody h
    exact ⟨u, r, .group hway, hk⟩
  | some g =>
    obtain ⟨u, r, hway, hk⟩ := hbody h
    rw [hway.since_eq] at hk
    exact ⟨u, r.capture g u, .capture hway, hk⟩

theorem finds_atomic (hbody : Finds widths flags body (body.match? widths flags)) :
    Finds widths flags (.atomic body) ((Expr.atomic body).match? widths flags) := by
  intro k s t h
  obtain ⟨r, hfound, hk⟩ := Option.bind_eq_some_iff.1 h
  obtain ⟨u, r', hway, hr⟩ := hbody hfound
  cases hr
  exact ⟨u, r, .atomic hway, hk⟩

/-- a look stays where it is, and keeps what its body has captured -/
theorem match?_look {behind negated : Bool} : (Expr.look behind negated body).match? widths flags k s =
    match (s.lookFrom widths behind body).bind (body.match? widths flags some), negated with
    | some r, false => k { s with groups := r.groups }
    | none, true => k s
    | _, _ => none := rfl

theorem finds_look {behind negated : Bool} (hbody : Finds widths flags body (body.match? widths flags)) :
    Finds widths flags (.look behind negated body) ((Expr.look behind negated body).match? widths flags) := by
  intro k s t h
  rw [match?_look] at h
  split at h
  · next r hfound =>
    obtain ⟨start, hstart, hfound⟩ := Option.bind_eq_some_iff.1 hfound
    obtain ⟨u, r', hway, hr⟩ := hbody hfound
    cases hr
    exact ⟨[], _, .look hstart hway, h⟩
  · next hrefused => exact ⟨[], s, .noLook hrefused, h⟩
  · cases h

/-! ## Repetitions -/

theorem map_sub_zero (most : Option Nat) : most.map (· - 0) = most := by cases most <;> rfl

theorem map_sub_succ (most : Option Nat) (n : Nat) : most.map (· - (n + 1)) = (most.map (· - 1)).map (· - n) := by
  cases most with
  | none => rfl
  | some m =>
    have hsub : m - (n + 1) = m - 1 - n := by omega
    exact congrArg some hsub

section

variable {turn : Next → Next} (hturn : Finds widths flags body turn)

include hturn

theorem finds_greedyTurns {fuel : Nat} {most last : Option Nat} :
    Finds widths flags (.again greed 0 most body) fun k => greedyTurns turn k fuel most last := by
  intro k s t h
  induction fuel generalizing most last s with
  | zero => exact ⟨[], s, .stop, h⟩
  | succ fuel ih =>
    beta_reduce at h
    rw [greedyTurns] at h
    beta_reduce at h
    split at h
    · exact ⟨[], s, .stop, h⟩
    · next hstop =>
      simp only [Bool.or_eq_true, decide_eq_true_eq, not_or] at hstop
      split at h
      · next t' hfound =>
        cases h
        obtain ⟨u, r₁, hway, hmore⟩ := hturn hfound
        obtain ⟨v, r, hways, hk⟩ := ih hmore
        exact ⟨u ++ v, r, .may hstop.1 hway hways, hk⟩
      · exact ⟨[], s, .stop, h⟩

theorem finds_lazyTurns {fuel : Nat} {most last : Option Nat} :
    Finds widths flags (.again greed 0 most body) fun k => lazyTurns turn k fuel most last := by
  intro k s t h
  induction fuel generalizing most last s with
  | zero => exact ⟨[], s, .stop, h⟩
  | succ fuel ih =>
    beta_reduce at h
    rw [lazyTurns] at h
    beta_reduce at h
    split at h
    · next t' hfound =>
      cases h
      exact ⟨[], s, .stop, hfound⟩
    · split at h
      · cases h
      · next hstop =>
        simp only [Bool.or_eq_true, decide_eq_true_eq, not_or] at hstop
        obtain ⟨u, r₁, hway, hmore⟩ := hturn h
        obtain ⟨v, r, hways, hk⟩ := ih hmore
        exact ⟨u ++ v, r, .may hstop.1 hway hways, hk⟩

theorem way_of_possessiveTurns {fuel : Nat} {most last : Option Nat} (h : possessiveTurns turn fuel most last s = some r) :
    ∃ u, Way widths flags (.again greed 0 most body) s u r := by
  induction fuel generalizing most last s with
  | zero =>
    cases h
    exact ⟨[], .stop⟩
  | succ fuel ih =>
    rw [possessiveTurns] at h
    beta_reduce at h
    split at h
    · cases h
      exact ⟨[], .stop⟩
    · next hstop =>
      simp only [Bool.or_eq_true, decide_eq_true_eq, not_or] at hstop
      split at h
      · next r₁ hfound =>
        obtain ⟨u, r', hway, hr⟩ := hturn hfound
        cases hr
        obtain ⟨v, hways⟩ := ih h
        exact ⟨u ++ v, .may hstop.1 hway hways⟩
      · cases h
        exact ⟨[], .stop⟩

/-- the turns that have to be made come before those that may -/
theorem finds_turns {least : Nat} {most : Option Nat} {spare : Next → Next}
    (hspare : Finds widths flags (.again greed 0 (most.map (· - least)) body) spare) :
    Finds widths flags (.again greed least most body) fun k => turns turn least (spare k) := by
  intro k s t h
  induction least generalizing most s with
  | zero =>
    rw [map_sub_zero] at hspare
    exact hspare h
  | succ least ih =>
    obtain ⟨u, r₁, hway, hmore⟩ := hturn h
    obtain ⟨v, r, hways, hk⟩ := ih (map_sub_succ most least ▸ hspare) hmore
    exact ⟨u ++ v, r, .must hway hways, hk⟩

theorem way_of_settledTurns {least : Nat} {most : Option Nat} {spare : Next}
    (hspare : ∀ {s r}, spare s = some r → ∃ u, Way widths flags (.again greed 0 (most.map (· - least)) body) s u r)
    (h : (settledTurns turn least s).bind spare = some r) : ∃ u, Way widths flags (.again greed least most body) s u r := by
  induction least generalizing most s with
  | zero =>
    rw [map_sub_zero] at hspare
    exact hspare h
  | succ least ih =>
    rw [settledTurns, Option.bind_assoc] at h
    obtain ⟨r₁, hfound, hmore⟩ := Option.bind_eq_some_iff.1 h
    obtain ⟨u, r', hway, hr⟩ := hturn hfound
    cases hr
    obtain ⟨v, hways⟩ := ih (map_sub_succ most least ▸ hspare) hmore
    exact ⟨u ++ v, .must hway hways⟩

theorem finds_repetition {least : Nat} {most : Option Nat} :
    Finds widths flags (.again greed least most body) (repetition greed least most turn) := by
  intro k s t h
  cases greed with
  | greedy => exact finds_turns hturn (finds_greedyTurns hturn) h
  | lazy => exact finds_turns hturn (finds_lazyTurns hturn) h
  | possessive =>
    obtain ⟨r, hfound, hk⟩ := Option.bind_eq_some_iff.1 h
    obtain ⟨u, hway⟩ := way_of_settledTurns hturn (way_of_possessiveTurns hturn) hfound
    exact ⟨u, r, hway, hk⟩

end

/-! ## Whole patterns -/

/-- **Every match is a way**, after which what was to follow has matched -/
theorem way_of_match? : Finds widths flags e (e.match? widths flags) := by
  induction e generalizing flags with
  | empty =>
    intro k s t h
    exact ⟨[], s, .empty, h⟩
  | code n => exact finds_one .code
  | anyChar => exact finds_one .anyChar
  | chars negated items => exact finds_one .chars
  | anchor a => exact finds_anchor a
  | seq a b iha ihb => exact finds_seq iha ihb
  | alt a b iha ihb => exact finds_alt iha ihb
  | group index on off body ih => exact finds_group ih
  | atomic body ih => exact finds_atomic ih
  | again greed least most body ih => exact finds_repetition ih
  | look behind negated body ih => exact finds_look ih
  | reference g => exact finds_reference g
  | provided g yes no ihyes ihno => exact finds_provided ihyes ihno g

theorem way_of_searchFrom {before ahead : List Char} (h : searchFrom p before ahead = some t) :
    ∃ skipped rest u, ahead = skipped ++ rest ∧
      Way p.widths p.flags p.body ⟨skipped.reverse ++ before, rest, []⟩ u t := by
  induction ahead generalizing before with
  | nil =>
    rw [searchFrom] at h
    split at h
    · next hfound =>
      cases h
      obtain ⟨u, r, hway, hr⟩ := way_of_match? hfound
      cases hr
      exact ⟨[], [], u, rfl, hway⟩
    · cases h
  | cons c ahead ih =>
    rw [searchFrom] at h
    split at h
    · next hfound =>
      cases h
      obtain ⟨u, r, hway, hr⟩ := way_of_match? hfound
      cases hr
      exact ⟨[], c :: ahead, u, rfl, hway⟩
    · obtain ⟨skipped, rest, u, rfl, hway⟩ := ih h
      exact ⟨c :: skipped, rest, u, rfl, by simpa using hway⟩

/-- **The leftmost match is a way** from a place in the text, where nothing has been captured yet -/
theorem way_of_search? {text : List Char} (h : p.search? text = some t) :
    ∃ skipped rest u, text = skipped ++ rest ∧ Way p.widths p.flags p.body ⟨skipped.reverse, rest, []⟩ u t := by
  obtain ⟨skipped, rest, u, htext, hway⟩ := way_of_searchFrom h
  exact ⟨skipped, rest, u, htext, by simpa using hway⟩

end ChangeLint.Pattern
