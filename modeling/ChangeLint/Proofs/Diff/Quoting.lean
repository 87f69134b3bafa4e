/-
Quotes come off again, in whatever way a path was quoted.

Between quotes a character can be written in three ways (`Spelling`): by itself, unless it is a double quote or a
backslash; by its letter, if it has one; or by the octal digits of each byte of its UTF-8 form. `spelled?` writes a path
with a way of its own for each character. What it writes are texts that `Spells` each character, one behind the other.

`unquote_inverts`: such a text between quotes stands for its path, and a text that is not between quotes for itself.
-/
import ChangeLint.Proofs.Diff.PathQuoting

namespace ChangeLint.Diff

/-! ## Ways to write a character -/

/-- a way to write a character between quotes -/
inductive Spelling
  | literal
  | letter
  | octal
deriving DecidableEq, Repr

/-- a character written in a way, if it can be written so -/
def Spelling.text? : Spelling → Char → Option (List Char)
  | .literal, c => if c = '"' ∨ c = '\\' then none else some [c]
  | .letter, c => (escapeLetter? c).map fun l => ['\\', l]
  | .octal, c => some ((String.utf8EncodeChar c).flatMap octalEscape)

/-- a path with each character written in the way given for it, if there is one for each and all can be written so -/
def spelled? : List Spelling → List Char → Option (List Char)
  | [], [] => some []
  | s :: ss, c :: cs => do
    let t ← s.text? c
    let ts ← spelled? ss cs
    some (t ++ ts)
  | _, _ => none

/-- a text between quotes -/
def inQuotes (t : List Char) : List Char := '"' :: (t ++ ['"'])

variable {s : Spelling} {ss : List Spelling} {c : Char} {p t : List Char}

theorem spells_of_text? (h : s.text? c = some t) : Spells c t := by
  cases s with
  | literal =>
    simp only [Spelling.text?] at h
    split at h
    · cases h
    · rename_i hplain
      rw [not_or] at hplain
      cases h
      exact .literal hplain.1 hplain.2
  | letter =>
    obtain ⟨l, hl, rfl⟩ := Option.map_eq_some_iff.1 h
    obtain ⟨b, hb, hc⟩ := letterByte?_escapeLetter? hl
    exact .letter hb hc
  | octal =>
    cases h
    exact .octal c

/-- a path is spelled character by character -/
theorem exists_spells_of_spelled? (h : spelled? ss p = some t) : ∃ ts, List.Forall₂ Spells p ts ∧ t = ts.flatten := by
  induction ss generalizing p t with
  | nil =>
    cases p with
    | nil =>
      cases h
      exact ⟨[], .nil, rfl⟩
    | cons c cs => cases h
  | cons s ss ih =>
    cases p with
    | nil => cases h
    | cons c cs =>
      simp only [spelled?, Option.bind_eq_bind, Option.bind_eq_some_iff, Option.some.injEq] at h
      obtain ⟨u, hu, us, hus, rfl⟩ := h
      obtain ⟨ts, hts, rfl⟩ := ih hus
      exact ⟨u :: ts, .cons (spells_of_text? hu) hts, rfl⟩

/-! ## Texts between quotes and other texts -/

theorem unquoted_inQuotes (h : spelled? ss p = some t) : unquoted (inQuotes t) = p := by
  obtain ⟨ts, hts, rfl⟩ := exists_spells_of_spelled? h
  exact unquoted_spelled hts

/-- a quoted text ends at its closing quote, whatever follows it -/
theorem quotedToken_inQuotes (h : spelled? ss p = some t) (rest : List Char) :
    quotedToken (t ++ '"' :: rest) = (t ++ ['"'], rest) := by
  obtain ⟨ts, hts, rfl⟩ := exists_spells_of_spelled? h
  exact quotedToken_spelled hts rest

/-- a text that is not between quotes is not changed -/
theorem unquoted_of_bare {cs : List Char} (h : ¬ (2 ≤ cs.length ∧ cs.head? = some '"' ∧ cs.getLast? = some '"')) :
    unquoted cs = cs := by
  unfold unquoted
  split
  · rename_i rest
    rw [if_neg]
    intro hlast
    -- the closing quote is another one than the opening quote, so there are two
    obtain ⟨body, rfl⟩ := List.getLast?_eq_some_iff.1 hlast
    refine h ⟨by simp, rfl, ?_⟩
    rw [← List.cons_append, List.getLast?_concat]
  · rfl

/-- **Unquoting inverts quoting.** A path that is spelled in any way between quotes is read back; a text that does not both
begin and end with a quote of its own is left as it is. -/
theorem unquote_inverts :
    (∀ (p : String) (ss : List Spelling) (t : List Char), spelled? ss p.toList = some t →
      unquote (String.ofList (inQuotes t)) = p) ∧
    ∀ s : String, ¬ (2 ≤ s.length ∧ s.toList.head? = some '"' ∧ s.toList.getLast? = some '"') → unquote s = s := by
  constructor
  · intro p ss t h
    rw [unquote, String.toList_ofList, unquoted_inQuotes h, String.ofList_toList]
  · intro s h
    rw [← String.length_toList] at h
    rw [unquote, unquoted_of_bare h, String.ofList_toList]

/-- a backslash before digits, an escape behind an escape, and a digit behind an escape -/
def mixedPath : String := "\\123é\t0n"

def mixedSpelling : List Spelling := [.letter, .literal, .literal, .literal, .octal, .letter, .literal, .octal]

theorem unquote_inverts_mixed :
    spelled? mixedSpelling mixedPath.toList = some "\\\\123\\303\\251\\t0\\156".toList ∧
      unquote (String.ofList (inQuotes "\\\\123\\303\\251\\t0\\156".toList)) = mixedPath ∧
      ¬ (2 ≤ "\"".length ∧ "\"".toList.head? = some '"' ∧ "\"".toList.getLast? = some '"') ∧ unquote "\"" = "\"" := by
  have hspelled : spelled? mixedSpelling mixedPath.toList = some "\\\\123\\303\\251\\t0\\156".toList := by decide
  have hbare : ¬ (2 ≤ "\"".length ∧ "\"".toList.head? = some '"' ∧ "\"".toList.getLast? = some '"') := by decide
  exact ⟨hspelled, unquote_inverts.1 _ _ _ hspelled, hbare, unquote_inverts.2 _ hbare⟩

end ChangeLint.Diff
