/-
Laws of trimming and of words.

`trimEnd` is the library's `List.rdropWhile`. A text without characters of a class at its ends is its own trimmed form
(`trim_eq_self`), and a visible ASCII character is no blank.

A blank parts the words before it from those behind it (`words_append_cons`). No word is empty.
-/
import ChangeLint.Text.Blank
import Mathlib.Data.List.DropRight
import Mathlib.Data.List.TakeWhile
import Mathlib.Tactic

namespace ChangeLint.Text

variable {p : Char → Bool} {c : Char} {cs : List Char}

/-! ## Trimming -/

theorem trimEnd_eq_rdropWhile (p : Char → Bool) (cs : List Char) : trimEnd p cs = cs.rdropWhile p := rfl

/-- nothing is taken off behind a character of another class -/
theorem trimEnd_concat (h : p c = false) (cs : List Char) : trimEnd p (cs ++ [c]) = cs ++ [c] := by
  rw [trimEnd_eq_rdropWhile, List.rdropWhile_concat_neg]
  rw [h]
  exact Bool.false_ne_true

/-- what stands before a character of another class stays -/
theorem trimEnd_append_cons (h : p c = false) (cs ds : List Char) :
    trimEnd p (cs ++ c :: ds) = cs ++ c :: trimEnd p ds := by
  induction ds using List.reverseRecOn with
  | nil => exact trimEnd_concat h cs
  | append_singleton ds d ih =>
    rw [← List.cons_append, ← List.append_assoc]
    cases hd : p d with
    | true => rw [trimEnd_eq_rdropWhile, trimEnd_eq_rdropWhile, List.rdropWhile_concat_pos _ _ _ hd,
        List.rdropWhile_concat_pos _ _ _ hd, ← trimEnd_eq_rdropWhile, ← trimEnd_eq_rdropWhile, ih]
    | false => rw [trimEnd_concat hd, trimEnd_concat hd, List.append_assoc, List.cons_append]

/-- a text is not trimmed if neither its first nor its last character is of the class -/
theorem trim_eq_self_of_ends (hhead : ∀ c ∈ cs.head?, p c = false) (hlast : ∀ c ∈ cs.getLast?, p c = false) :
    trim p cs = cs := by
  have hstart : trimStart p cs = cs := by
    rw [trimStart, List.dropWhile_eq_self_iff]
    intro hpos
    rw [hhead _ (by rw [List.head?_eq_getElem?, List.getElem?_eq_getElem hpos]; rfl)]
    exact Bool.false_ne_true
  rw [trim, hstart, trimEnd_eq_rdropWhile, List.rdropWhile_eq_self_iff]
  intro hne
  rw [hlast _ (List.getLast?_eq_some_getLast hne)]
  exact Bool.false_ne_true

theorem trim_eq_self (h : ∀ c ∈ cs, p c = false) : trim p cs = cs :=
  trim_eq_self_of_ends (fun c hc => h c (List.mem_of_mem_head? hc)) fun c hc => h c (List.mem_of_mem_getLast? hc)

/-- what is left begins with a character of another class -/
theorem head?_trim (h : c ∈ (trim p cs).head?) : p c = false := by
  obtain ⟨rest, hrest⟩ : trim p cs <+: trimStart p cs := List.rdropWhile_prefix p _
  have hhead := List.head?_dropWhile_not p cs
  rw [trimStart] at hrest
  rw [← hrest, Option.mem_def.1 (List.mem_head?_append_of_mem_head? h)] at hhead
  simpa using hhead

/-- what is left ends with a character of another class -/
theorem getLast?_trim (h : c ∈ (trim p cs).getLast?) : p c = false := by
  obtain ⟨hne, rfl⟩ := List.mem_getLast?_eq_getLast h
  have hlast := List.rdropWhile_last_not p (trimStart p cs) hne
  rwa [Bool.not_eq_true] at hlast

theorem mem_trimStart (hc : c ∈ cs) (h : p c = false) : c ∈ trimStart p cs := by
  rw [← List.takeWhile_append_dropWhile (p := p) (l := cs), List.mem_append] at hc
  rcases hc with htaken | hleft
  · rw [List.mem_takeWhile_imp htaken] at h
    cases h
  · exact hleft

/-- a character of another class is left -/
theorem mem_trim (hc : c ∈ cs) (h : p c = false) : c ∈ trim p cs :=
  List.mem_reverse.2 (mem_trimStart (List.mem_reverse.2 (mem_trimStart hc h)) h)

/-! ## Blanks -/

/-- visible ASCII characters are no blanks -/
theorem isBlank_eq_false_of_visible (h : 33 ≤ c.toNat ∧ c.toNat ≤ 126) : isBlank c = false := by
  simp only [isBlank, Bool.or_eq_false_iff, Bool.and_eq_false_iff, decide_eq_false_iff_not, beq_eq_false_iff_ne]
  omega

/-! ## Words -/

theorem flushWord_append (word : List Char) (ws vs : List (List Char)) :
    flushWord word (ws ++ vs) = flushWord word ws ++ vs := by
  unfold flushWord
  split <;> rfl

theorem wordsFrom_append_cons (h : isBlank c = true) (word cs ds : List Char) :
    wordsFrom word (cs ++ c :: ds) = wordsFrom word cs ++ words ds := by
  induction cs generalizing word with
  | nil =>
    have hblank : wordsFrom word (c :: ds) = flushWord word (words ds) := by rw [wordsFrom, if_pos h, words]
    rw [List.nil_append, hblank, wordsFrom, ← flushWord_append, List.nil_append]
  | cons d cs ih =>
    rw [List.cons_append, wordsFrom, wordsFrom, ih, ih]
    split
    · exact flushWord_append word _ _
    · rfl

/-- a blank parts words -/
theorem words_append_cons (h : isBlank c = true) (cs ds : List Char) : words (cs ++ c :: ds) = words cs ++ words ds :=
  wordsFrom_append_cons h [] cs ds

/-- a word that has begun is not lost -/
theorem wordsFrom_ne_nil {word : List Char} (h : word ≠ []) (cs : List Char) : wordsFrom word cs ≠ [] := by
  have hword : word.isEmpty = false := by simpa using h
  induction cs generalizing word with
  | nil => simp [wordsFrom, flushWord, hword]
  | cons d cs ih =>
    rw [wordsFrom]
    split
    · simp [flushWord, hword]
    · exact ih (List.cons_ne_nil d word) rfl

theorem words_cons_ne_nil (h : isBlank c = false) (cs : List Char) : words (c :: cs) ≠ [] := by
  rw [words, wordsFrom, if_neg (by simp [h])]
  exact wordsFrom_ne_nil (List.cons_ne_nil c []) cs

theorem ne_nil_of_mem_flushWord {word w : List Char} {ws : List (List Char)} (h : ∀ v ∈ ws, v ≠ [])
    (hw : w ∈ flushWord word ws) : w ≠ [] := by
  unfold flushWord at hw
  split at hw
  · exact h w hw
  · rename_i hword
    rcases List.mem_cons.1 hw with rfl | hw
    · simpa using hword
    · exact h w hw

theorem ne_nil_of_mem_wordsFrom {word w cs : List Char} (hw : w ∈ wordsFrom word cs) : w ≠ [] := by
  induction cs generalizing word w with
  | nil => exact ne_nil_of_mem_flushWord (by simp) hw
  | cons d cs ih =>
    rw [wordsFrom] at hw
    split at hw
    · exact ne_nil_of_mem_flushWord (fun v hv => ih hv) hw
    · exact ih hw

/-- no word is empty -/
theorem ne_nil_of_mem_words {w cs : List Char} (hw : w ∈ words cs) : w ≠ [] := ne_nil_of_mem_wordsFrom hw

end ChangeLint.Text
