/-
C-style quotes come off again.

`Spells c t`: between quotes the text `t` stands for the character `c`, by itself, by its letter or by the octal digits of
its bytes. A quoted text is a spelling of each character of a path, in any mixture:
- `unquoted_spelled`: such a text stands for the path;
- `quotedToken_spelled`: it ends at its closing quote, whatever follows it.

`nameText` is the one that version control writes: with quotes only where a path holds a double quote, a backslash or a
control character, and then each of these by its letter or in octal digits (`unquoted_nameText`).
-/
import ChangeLint.Diff.PathQuoting
import ChangeLint.Proofs.Text.Utf8

namespace ChangeLint.Diff

open ChangeLint.Text

/-! ## Spellings -/

/-- an octal digit -/
def octalDigit (n : Nat) : Char := Char.ofNat (48 + n)

/-- a byte as an octal escape -/
def octalEscape (b : UInt8) : List Char :=
  ['\\', octalDigit (b.toNat / 64), octalDigit (b.toNat / 8 % 8), octalDigit (b.toNat % 8)]

/-- texts that stand for a character between quotes -/
inductive Spells : Char → List Char → Prop
  | literal {c : Char} (hquote : c ≠ '"') (hslash : c ≠ '\\') : Spells c [c]
  | letter {c l : Char} {b : UInt8} (hl : letterByte? l = some b) (hc : String.utf8EncodeChar c = [b]) :
    Spells c ['\\', l]
  | octal (c : Char) : Spells c ((String.utf8EncodeChar c).flatMap octalEscape)

theorem octalValue?_octalDigit : ∀ n < 8, octalValue? (octalDigit n) = some n := by decide

theorem octalDigit_ne : ∀ n < 8, octalDigit n ≠ '"' ∧ octalDigit n ≠ '\\' ∧ octalDigit n ≠ '\n' := by decide

theorem octalByte?_octalEscape (b : UInt8) :
    octalByte? (octalDigit (b.toNat / 64)) (octalDigit (b.toNat / 8 % 8)) (octalDigit (b.toNat % 8)) = some b := by
  have hb : b.toNat < 256 := b.toNat_lt
  rw [octalByte?, octalValue?_octalDigit _ (by omega), octalValue?_octalDigit _ (by omega),
    octalValue?_octalDigit _ (by omega)]
  have hsum : (b.toNat / 64 * 8 + b.toNat / 8 % 8) * 8 + b.toNat % 8 = b.toNat := by omega
  simp only [hsum, UInt8.ofNat_toNat]

/-- no letter of an escape is an octal digit -/
theorem octalValue?_of_letter {l : Char} {b : UInt8} (h : letterByte? l = some b) : octalValue? l = none := by
  unfold letterByte? at h
  split at h <;> first | rfl | cases h

variable {c : Char} {p t u : List Char} {ts : List (List Char)}

theorem quotedBytes_octal (bs : List UInt8) (u : List Char) :
    quotedBytes (bs.flatMap octalEscape ++ u) = bs ++ quotedBytes u := by
  induction bs with
  | nil => rfl
  | cons b bs ih =>
    rw [List.flatMap_cons, octalEscape, List.append_assoc]
    simp only [List.cons_append, List.nil_append, quotedBytes, octalByte?_octalEscape, ih]

/-- a spelling is read as the bytes of its character -/
theorem quotedBytes_append (h : Spells c t) (u : List Char) :
    quotedBytes (t ++ u) = String.utf8EncodeChar c ++ quotedBytes u := by
  cases h with
  | literal hquote hslash =>
    rw [List.singleton_append, quotedBytes]
    · simp [hslash]
    · simp [hslash]
  | letter hl hc =>
    rename_i l b
    have hbytes : escapedBytes l = String.utf8EncodeChar c := by rw [escapedBytes, hl, hc]
    match u with
    | x :: y :: rest =>
      have hnone : octalByte? l x y = none := by rw [octalByte?, octalValue?_of_letter hl]
      simp only [List.cons_append, List.nil_append, quotedBytes, hnone, hbytes]
    | [x] => simp only [List.cons_append, List.nil_append, quotedBytes, hbytes]
    | [] => simp only [List.cons_append, List.nil_append, quotedBytes, hbytes]
  | octal => exact quotedBytes_octal _ u

theorem quotedToken_literal (hquote : c ≠ '"') (hslash : c ≠ '\\') (u : List Char) :
    quotedToken (c :: u) = (c :: (quotedToken u).1, (quotedToken u).2) := by
  rw [quotedToken]
  · simp [hslash]
  · simpa using hquote

theorem quotedToken_octal (bs : List UInt8) (u : List Char) :
    quotedToken (bs.flatMap octalEscape ++ u) = (bs.flatMap octalEscape ++ (quotedToken u).1, (quotedToken u).2) := by
  induction bs with
  | nil => rfl
  | cons b bs ih =>
    have hb : b.toNat < 256 := b.toNat_lt
    have h1 := octalDigit_ne (b.toNat / 8 % 8) (by omega)
    have h2 := octalDigit_ne (b.toNat % 8) (by omega)
    rw [List.flatMap_cons, octalEscape, List.append_assoc]
    simp only [List.cons_append, List.nil_append, quotedToken, quotedToken_literal h1.1 h1.2.1,
      quotedToken_literal h2.1 h2.2.1, ih]

/-- a spelling is no closing quote -/
theorem quotedToken_append (h : Spells c t) (u : List Char) :
    quotedToken (t ++ u) = (t ++ (quotedToken u).1, (quotedToken u).2) := by
  cases h with
  | literal hquote hslash => exact quotedToken_literal hquote hslash u
  | letter hl hc => rfl
  | octal => exact quotedToken_octal _ u

/-! ## Quoted texts -/

theorem quotedBytes_spelled (h : List.Forall₂ Spells p ts) : quotedBytes ts.flatten = Utf8.encode p := by
  induction h with
  | nil => rfl
  | cons hc _ ih => rw [List.flatten_cons, quotedBytes_append hc, ih, Utf8.encode, Utf8.encode, List.flatMap_cons]

/-- **A spelled path between quotes stands for the path** -/
theorem unquoted_spelled (h : List.Forall₂ Spells p ts) : unquoted ('"' :: (ts.flatten ++ ['"'])) = p := by
  rw [unquoted, if_pos List.getLast?_concat, List.dropLast_concat, quotedBytes_spelled h, Utf8.decodeLossy_encode]

/-- **A spelled path ends at its closing quote** -/
theorem quotedToken_spelled (h : List.Forall₂ Spells p ts) (rest : List Char) :
    quotedToken (ts.flatten ++ '"' :: rest) = (ts.flatten ++ ['"'], rest) := by
  induction h with
  | nil => rfl
  | cons hc _ ih => rw [List.flatten_cons, List.append_assoc, quotedToken_append hc, ih, List.append_assoc]

/-! ## Names as version control writes them -/

/-- control characters of ASCII, the double quote and the backslash -/
def isSpecial (c : Char) : Bool := c.toNat < 32 || c.toNat = 127 || c = '"' || c = '\\'

/-- the letter that a special character is written with -/
def escapeLetter? : Char → Option Char
  | '\x07' => some 'a'
  | '\x08' => some 'b'
  | '\t' => some 't'
  | '\n' => some 'n'
  | '\x0b' => some 'v'
  | '\x0c' => some 'f'
  | '\r' => some 'r'
  | '"' => some '"'
  | '\\' => some '\\'
  | _ => none

/-- a character between quotes -/
def escape (c : Char) : List Char :=
  if isSpecial c then
    match escapeLetter? c with
    | some l => ['\\', l]
    | none => octalEscape (UInt8.ofNat c.toNat)
  else [c]

/-- a name, in quotes when it holds a special character -/
def nameText (p : List Char) : List Char := if p.any isSpecial then '"' :: (p.flatMap escape ++ ['"']) else p

theorem letterByte?_escapeLetter? {l : Char} (h : escapeLetter? c = some l) :
    ∃ b, letterByte? l = some b ∧ String.utf8EncodeChar c = [b] := by
  unfold escapeLetter? at h
  split at h <;> cases h
  all_goals exact ⟨_, rfl, by decide⟩

theorem spells_escape (c : Char) : Spells c (escape c) := by
  unfold escape
  split
  · rename_i hspecial
    split
    · rename_i l hl
      obtain ⟨b, hb, hc⟩ := letterByte?_escapeLetter? hl
      exact .letter hb hc
    · -- what has no letter is a control character, so of one byte
      rename_i hnone
      have hascii : c.val.toNat ≤ 0x7f := by
        simp only [isSpecial, Bool.or_eq_true, decide_eq_true_eq] at hspecial
        rcases hspecial with ((h | h) | rfl) | rfl
        · exact h.le.trans (by decide)
        · exact h.le
        · exact absurd hnone (by decide)
        · exact absurd hnone (by decide)
      have hbytes : String.utf8EncodeChar c = [UInt8.ofNat c.toNat] := if_pos hascii
      have h := Spells.octal c
      rwa [hbytes, List.flatMap_singleton] at h
  · rename_i hspecial
    simp only [isSpecial, Bool.or_eq_true, decide_eq_true_eq, not_or] at hspecial
    exact .literal hspecial.1.2 hspecial.2

theorem spells_map_escape (p : List Char) : List.Forall₂ Spells p (p.map escape) := by
  rw [List.forall₂_map_right_iff, List.forall₂_same]
  exact fun c _ => spells_escape c

theorem nameText_of_special (h : p.any isSpecial = true) : nameText p = '"' :: ((p.map escape).flatten ++ ['"']) := by
  rw [nameText, if_pos h, List.flatMap_def]

theorem nameText_of_plain (h : p.any isSpecial = false) : nameText p = p := by
  rw [nameText, h, if_neg Bool.false_ne_true]

/-- what does not begin with a quote stands for itself -/
theorem unquoted_eq_self (h : p.head? ≠ some '"') : unquoted p = p := by
  unfold unquoted
  split
  · exact absurd rfl h
  · rfl

/-- plain names hold no special character -/
theorem not_mem_of_plain (h : p.any isSpecial = false) (hc : isSpecial c = true) : c ∉ p := fun hmem => by
  rw [List.any_eq_false] at h
  exact h c hmem hc

theorem head?_of_plain (h : p.any isSpecial = false) : p.head? ≠ some '"' := fun hhead =>
  not_mem_of_plain h (by decide) (List.mem_of_head? hhead)

/-- **A name as version control writes it stands for its path** -/
theorem unquoted_nameText (p : List Char) : unquoted (nameText p) = p := by
  cases h : p.any isSpecial with
  | true => rw [nameText_of_special h, unquoted_spelled (spells_map_escape p)]
  | false => rw [nameText_of_plain h, unquoted_eq_self (head?_of_plain h)]

theorem break_not_mem_octalEscape (b : UInt8) : '\n' ∉ octalEscape b := by
  have hb : b.toNat < 256 := b.toNat_lt
  have h1 := octalDigit_ne (b.toNat / 64) (by omega)
  have h2 := octalDigit_ne (b.toNat / 8 % 8) (by omega)
  have h3 := octalDigit_ne (b.toNat % 8) (by omega)
  simp [octalEscape, h1.2.2.symm, h2.2.2.symm, h3.2.2.symm]

theorem escapeLetter?_ne_break {l : Char} (h : escapeLetter? c = some l) : '\n' ≠ l := by
  unfold escapeLetter? at h
  split at h <;> cases h
  all_goals decide

theorem break_not_mem_escape (c : Char) : '\n' ∉ escape c := by
  unfold escape
  split
  · split
    · rename_i l hl
      simpa using escapeLetter?_ne_break hl
    · exact break_not_mem_octalEscape _
  · rename_i hspecial
    rw [List.mem_singleton]
    rintro rfl
    exact hspecial (by decide)

/-- a name is one line, even that of a path with a break in it -/
theorem break_not_mem_nameText (p : List Char) : '\n' ∉ nameText p := by
  cases h : p.any isSpecial with
  | true =>
    rw [nameText_of_special h, List.mem_cons, List.mem_append, List.mem_flatten]
    rintro (h | ⟨t, ht, hbreak⟩ | h)
    · exact absurd h (by decide)
    · obtain ⟨c, -, rfl⟩ := List.mem_map.1 ht
      exact break_not_mem_escape c hbreak
    · exact absurd h (by decide)
  | false =>
    rw [nameText_of_plain h]
    exact not_mem_of_plain h (by decide)

end ChangeLint.Diff
