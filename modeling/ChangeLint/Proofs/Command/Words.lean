/-
Command lines that can be split into words.

A command line can be split exactly when every quotation in it is closed and no backslash stands at its end. `Closed` says
so piece by piece: a character that stands for itself, a backslash with the character that it takes, or a quotation from
one quote to the other.

Results:
- `exists_split_iff`: splitting from any mode succeeds when what is open there is closed in the rest;
- `exists_words_iff`: a command line can be split when it is closed, and only then.
-/
import ChangeLint.Command.Words
import ChangeLint.Proofs.Except

namespace ChangeLint.Command

/-- what stands between two quotes; between double ones a backslash takes the next character with it -/
inductive Inside (q : Char) : List Char → Prop
  | nil : Inside q []
  | plain {c cs} (quote : c ≠ q) (escape : ¬ (c = '\\' ∧ q = '"')) (more : Inside q cs) : Inside q (c :: cs)
  | escaped {c cs} (double : q = '"') (more : Inside q cs) : Inside q ('\\' :: c :: cs)

/-- texts without an open quotation and without a backslash that takes nothing -/
inductive Closed : List Char → Prop
  | nil : Closed []
  | plain {c cs} (escape : c ≠ '\\') (quote : ¬ (c = '\'' ∨ c = '"')) (more : Closed cs) : Closed (c :: cs)
  | escaped {c cs} (more : Closed cs) : Closed ('\\' :: c :: cs)
  | quoted {q text cs} (quote : q = '\'' ∨ q = '"') (inside : Inside q text) (more : Closed cs) :
      Closed (q :: (text ++ q :: cs))

/-- an open quotation is closed in a text -/
def ClosedQuote (q : Char) (cs : List Char) : Prop := ∃ text rest, cs = text ++ q :: rest ∧ Inside q text ∧ Closed rest

/-- what is open in a mode is closed in a text -/
def ClosedFrom : Mode → List Char → Prop
  | .bare, cs => Closed cs
  | .quoted q, cs => ClosedQuote q cs
  | .escaped, cs => ∃ c rest, cs = c :: rest ∧ Closed rest
  | .escapedInQuotes, cs => ∃ c rest, cs = c :: rest ∧ ClosedQuote '"' rest

variable {q c : Char} {cs : List Char}

/-! ## One character more -/

theorem closed_cons_plain (hescape : c ≠ '\\') (hquote : ¬ (c = '\'' ∨ c = '"')) : Closed (c :: cs) ↔ Closed cs := by
  constructor
  · intro h
    cases h with
    | plain _ _ more => exact more
    | escaped => exact absurd rfl hescape
    | quoted quote => exact absurd quote hquote
  · exact .plain hescape hquote

theorem closed_cons_escape : Closed ('\\' :: cs) ↔ ClosedFrom .escaped cs := by
  constructor
  · intro h
    cases h with
    | plain escape => exact absurd rfl escape
    | escaped more => exact ⟨_, _, rfl, more⟩
    | quoted quote => exact absurd quote (by decide)
  · rintro ⟨c, rest, rfl, hrest⟩
    exact .escaped hrest

theorem closed_cons_quote (hq : q = '\'' ∨ q = '"') : Closed (q :: cs) ↔ ClosedQuote q cs := by
  constructor
  · intro h
    cases h with
    | plain _ quote => exact absurd hq quote
    | escaped => exact absurd hq (by decide)
    | quoted _ inside more => exact ⟨_, _, rfl, inside, more⟩
  · rintro ⟨text, rest, rfl, hinside, hrest⟩
    exact .quoted hq hinside hrest

theorem closedQuote_cons_quote : ClosedQuote q (q :: cs) ↔ Closed cs := by
  constructor
  · rintro ⟨text, rest, htext, hinside, hrest⟩
    cases hinside with
    | nil => exact (List.cons.inj htext).2 ▸ hrest
    | plain quote => exact absurd (List.cons.inj htext).1.symm quote
    | escaped double => exact absurd ((List.cons.inj htext).1.symm.trans double) (by decide)
  · exact fun h => ⟨[], cs, rfl, .nil, h⟩

theorem closedQuote_cons_escape : ClosedQuote '"' ('\\' :: cs) ↔ ClosedFrom .escapedInQuotes cs := by
  constructor
  · rintro ⟨text, rest, htext, hinside, hrest⟩
    cases hinside with
    | nil => exact absurd (List.cons.inj htext).1 (by decide)
    | plain _ escape => exact absurd ⟨(List.cons.inj htext).1.symm, rfl⟩ escape
    | escaped _ more => exact ⟨_, _, (List.cons.inj htext).2, _, rest, rfl, more, hrest⟩
  · rintro ⟨c, _, rfl, text, rest, rfl, hinside, hrest⟩
    exact ⟨'\\' :: c :: text, rest, rfl, .escaped rfl hinside, hrest⟩

theorem closedQuote_cons_plain (hquote : c ≠ q) (hescape : ¬ (c = '\\' ∧ q = '"')) :
    ClosedQuote q (c :: cs) ↔ ClosedQuote q cs := by
  constructor
  · rintro ⟨text, rest, htext, hinside, hrest⟩
    cases hinside with
    | nil => exact absurd (List.cons.inj htext).1 hquote
    | plain _ _ more => exact ⟨_, rest, (List.cons.inj htext).2, more, hrest⟩
    | escaped double => exact absurd ⟨(List.cons.inj htext).1, double⟩ hescape
  · rintro ⟨text, rest, rfl, hinside, hrest⟩
    exact ⟨c :: text, rest, rfl, .plain hquote hescape hinside, hrest⟩

/-! ## Whole texts -/

/-- **Splitting succeeds** from a mode when what is open there is closed, and only then -/
theorem exists_split_iff {word : Option (List Char)} {mode : Mode} :
    (∃ ws, split word mode cs = .ok ws) ↔ ClosedFrom mode cs := by
  fun_induction split word mode cs with
  | case1 word => exact ⟨fun _ => .nil, fun _ => ⟨_, rfl⟩⟩
  | case2 word q => simp [ClosedFrom, ClosedQuote]
  | case3 | case4 => simp [ClosedFrom]
  | case5 word c cs hblank ih =>
    have hescape : c ≠ '\\' := fun hc => absurd (hc ▸ hblank) (by decide)
    have hquote : ¬ (c = '\'' ∨ c = '"') := by rintro (rfl | rfl) <;> exact absurd hblank (by decide)
    rw [exists_map_eq_ok, ih]
    exact (closed_cons_plain hescape hquote).symm
  | case6 word cs _ ih => exact ih.trans closed_cons_escape.symm
  | case7 word c cs _ _ hquote ih =>
    rw [Bool.or_eq_true, decide_eq_true_eq, decide_eq_true_eq] at hquote
    exact ih.trans (closed_cons_quote hquote).symm
  | case8 word c cs _ hescape hquote ih =>
    rw [Bool.or_eq_true, decide_eq_true_eq, decide_eq_true_eq] at hquote
    exact ih.trans (closed_cons_plain hescape hquote).symm
  | case9 word q cs ih => exact ih.trans closedQuote_cons_quote.symm
  | case10 word q c cs _ hescape ih =>
    rw [Bool.and_eq_true, decide_eq_true_eq, decide_eq_true_eq] at hescape
    obtain ⟨rfl, rfl⟩ := hescape
    exact ih.trans closedQuote_cons_escape.symm
  | case11 word q c cs hquote hescape ih =>
    rw [Bool.and_eq_true, decide_eq_true_eq, decide_eq_true_eq] at hescape
    exact ih.trans (closedQuote_cons_plain hquote hescape).symm
  | case12 word c cs ih =>
    rw [ih]
    exact ⟨fun h => ⟨c, cs, rfl, h⟩, by rintro ⟨_, _, heq, h⟩; cases heq; exact h⟩
  | case13 word c cs kept ih =>
    rw [ih]
    exact ⟨fun h => ⟨c, cs, rfl, h⟩, by rintro ⟨_, _, heq, h⟩; cases heq; exact h⟩

/-- **A command line can be split** when it is closed, and only then -/
theorem exists_words_iff {s : String} : (∃ ws, words s = .ok ws) ↔ Closed s.toList := by
  rw [words, exists_map_eq_ok]
  exact exists_split_iff

end ChangeLint.Command
