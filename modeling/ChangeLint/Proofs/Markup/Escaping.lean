/-
An escaped text is shown, whatever it holds.

An escape puts backslashes into a text, an odd number of them before each tag; so a tag that it finds is read as text.
Backslashes do not make a tag where there was none (`tagAt?_of_slashed`). So no tag is left of the text, and what is read
behind it are the tags there (`exists_tags_escapeTags`): at most the first of them can be made text, by backslashes that the
text ends with.

Results:
- `exists_tags_escape`: what is read behind an escaped text;
- `tags_escape`: no tag is left of an escaped text.
-/
import ChangeLint.Proofs.Markup.Tags

namespace ChangeLint.Markup

/-- a text with backslashes put in -/
inductive Slashed : List Char → List Char → Prop
  | nil : Slashed [] []
  | keep (c : Char) {cs ds : List Char} (h : Slashed cs ds) : Slashed (c :: cs) (c :: ds)
  | slash {cs ds : List Char} (h : Slashed cs ds) : Slashed cs ('\\' :: ds)

variable {cs ds rest body mid slashes after style text : List Char} {c d : Char} {fuel : Nat}

/-! ## Backslashes -/

namespace Slashed

theorem refl (cs : List Char) : Slashed cs cs := by
  induction cs with
  | nil => exact .nil
  | cons c cs ih => exact .keep c ih

theorem keepAll (h : Slashed cs ds) (front : List Char) : Slashed (front ++ cs) (front ++ ds) := by
  induction front with
  | nil => exact h
  | cons c front ih => exact .keep c ih

theorem behind (h : Slashed cs ds) (hslashes : ∀ c ∈ slashes, c = '\\') : Slashed cs (slashes ++ ds) := by
  induction slashes with
  | nil => exact h
  | cons c slashes ih =>
    rw [hslashes c List.mem_cons_self]
    exact .slash (ih fun d hd => hslashes d (List.mem_cons_of_mem c hd))

theorem mem (h : Slashed cs ds) (hc : c ∈ cs) : c ∈ ds := by
  induction h with
  | nil => exact hc
  | keep d h ih =>
    rcases List.mem_cons.1 hc with rfl | hc
    · exact List.mem_cons_self
    · exact List.mem_cons_of_mem d (ih hc)
  | slash h ih => exact List.mem_cons_of_mem _ (ih hc)

/-- what stands before a character, without the backslashes put in -/
theorem exists_before (hc : c ≠ '\\') (h : Slashed cs (mid ++ c :: rest)) :
    ∃ mid' rest', cs = mid' ++ c :: rest' ∧ Slashed mid' mid := by
  induction mid generalizing cs with
  | nil =>
    cases h with
    | keep _ h => exact ⟨[], _, rfl, .nil⟩
    | slash h => exact absurd rfl hc
  | cons d mid ih =>
    cases h with
    | keep _ h =>
      obtain ⟨mid', rest', rfl, hmid⟩ := ih h
      exact ⟨d :: mid', rest', rfl, .keep d hmid⟩
    | slash h =>
      obtain ⟨mid', rest', rfl, hmid⟩ := ih h
      exact ⟨mid', rest', rfl, .slash hmid⟩

theorem exists_cons (hc : c ≠ '\\') (h : Slashed cs (c :: ds)) : ∃ cs', cs = c :: cs' ∧ Slashed cs' ds := by
  cases h with
  | keep _ h => exact ⟨_, rfl, h⟩
  | slash h => exact absurd rfl hc

end Slashed

/-- **No tag comes from backslashes** -/
theorem tagAt?_of_slashed (h : Slashed cs ds) (htag : tagAt? cs = none) : tagAt? ds = none := by
  cases hds : tagAt? ds with
  | none => rfl
  | some t =>
    obtain ⟨d, mid, -, rfl, hd, hclosed, hopen⟩ := tagAt?_eq_some_iff.1 hds
    have hslash : d ≠ '\\' := by
      rintro rfl
      cases hd
    obtain ⟨cs, rfl, hbracket⟩ := h.exists_cons (by decide)
    obtain ⟨cs, rfl, hbegin⟩ := hbracket.exists_cons hslash
    obtain ⟨mid', rest', rfl, hmid⟩ := hbegin.exists_before (by decide)
    have hsome : tagAt? ('[' :: d :: (mid' ++ ']' :: rest')) = some (d :: mid', rest') :=
      tagAt?_eq_some_iff.2 ⟨d, mid', rfl, rfl, hd, fun hno => hclosed (hmid.mem hno), fun hno => hopen (hmid.mem hno)⟩
    rw [hsome] at htag
    cases htag

/-- nor does one come from what stands behind a text, if no bracket closes there before one opens -/
theorem tagAt?_append (hrest : upToClose [] rest = none) (hc : c ≠ ']') (htag : tagAt? (c :: cs) = none) :
    tagAt? (c :: cs ++ rest) = none := by
  cases hds : tagAt? (c :: cs ++ rest) with
  | none => rfl
  | some t =>
    obtain ⟨d, mid, -, heq, hd, hclosed, hopen⟩ := tagAt?_eq_some_iff.1 hds
    obtain ⟨rfl, hbehind⟩ : c = '[' ∧ cs ++ rest = d :: mid ++ ']' :: t.2 := by simpa using heq
    have hd' : d ≠ ']' ∧ d ≠ '[' := by
      constructor <;> (rintro rfl; cases hd)
    rcases List.append_eq_append_iff.1 hbehind with ⟨as, hfront, hrest'⟩ | ⟨as, hfront, hrest'⟩
    · -- the tag ends behind the text
      have hclose : upToClose [] rest = some (as, t.2) := by
        refine upToClose_eq_some_iff.2 ⟨as, hrest', rfl, fun h => ?_, fun h => ?_⟩
        · exact (List.mem_cons.1 (hfront ▸ List.mem_append_right cs h)).elim (fun h => hd'.1 h.symm) hclosed
        · exact (List.mem_cons.1 (hfront ▸ List.mem_append_right cs h)).elim (fun h => hd'.2 h.symm) hopen
      rw [hclose] at hrest
      cases hrest
    · cases as with
      | nil =>
        have hclose : upToClose [] rest = some ([], t.2) :=
          upToClose_eq_some_iff.2 ⟨[], hrest'.symm, rfl, List.not_mem_nil, List.not_mem_nil⟩
        rw [hclose] at hrest
        cases hrest
      | cons b as =>
        obtain ⟨rfl, -⟩ := List.cons.inj hrest'
        have hsome : tagAt? ('[' :: cs) = some (d :: mid, as) :=
          tagAt?_eq_some_iff.2 ⟨d, mid, rfl, by rw [hfront]; rfl, hd, hclosed, hopen⟩
        rw [hsome] at htag
        cases htag

/-! ## One step of escaping -/

theorem escapeTags_char (hc : c ≠ '\\') (htag : tagAt? (c :: rest) = none) :
    escapeTags (fuel + 1) (c :: rest) = c :: escapeTags fuel rest := by
  have hspan := @span_slashes [] (c :: rest) nofun fun h => hc (Option.some.inj h)
  rw [List.nil_append] at hspan
  simp only [escapeTags, hspan, htag, List.isEmpty_nil, if_true]

theorem escapeTags_slashes (hslashes : ∀ c ∈ slashes, c = '\\') (hne : slashes ≠ []) (hafter : after.head? ≠ some '\\')
    (htag : tagAt? after = none) : escapeTags (fuel + 1) (slashes ++ after) = slashes ++ escapeTags fuel after := by
  have hspan := span_slashes hslashes hafter
  obtain ⟨c, slashes, rfl⟩ := List.exists_cons_of_ne_nil hne
  rw [List.cons_append] at hspan ⊢
  simp only [escapeTags, hspan, htag, List.isEmpty_cons, Bool.false_eq_true, if_false]

theorem escapeTags_tag (hslashes : ∀ c ∈ slashes, c = '\\') (htag : tagAt? after = some (body, rest)) :
    escapeTags (fuel + 1) (slashes ++ after) = slashes ++ slashes ++ ['\\', '['] ++ body ++ [']'] ++ escapeTags fuel rest := by
  have hspan := span_slashes hslashes (head?_of_tagAt? htag)
  cases hsplit : slashes ++ after with
  | nil =>
    rw [(List.append_eq_nil_iff.1 hsplit).2] at htag
    cases htag
  | cons c cs =>
    rw [hsplit] at hspan
    simp only [escapeTags, hspan, htag]

theorem slashed_escapeTags (fuel : Nat) (cs : List Char) : Slashed cs (escapeTags fuel cs) := by
  induction fuel generalizing cs with
  | zero => exact .refl cs
  | succ fuel ih =>
    obtain ⟨slashes, after, rfl, hslashes, hafter⟩ := exists_slashes cs
    cases htag : tagAt? after with
    | some t =>
      obtain ⟨d, mid, hbody, hafter, -⟩ := tagAt?_eq_some_iff.1 htag
      have htail : Slashed ('[' :: d :: mid ++ ']' :: t.2) ('[' :: d :: mid ++ ']' :: escapeTags fuel t.2) :=
        (Slashed.keep ']' (ih t.2)).keepAll ('[' :: d :: mid)
      rw [escapeTags_tag hslashes htag, hbody, hafter]
      simpa using (htail.slash.behind hslashes).keepAll slashes
    | none =>
      cases slashes with
      | cons b slashes =>
        rw [escapeTags_slashes hslashes (List.cons_ne_nil b slashes) hafter htag]
        exact (ih after).keepAll (b :: slashes)
      | nil =>
        cases after with
        | nil => exact .nil
        | cons c rest =>
          rw [List.nil_append, escapeTags_char (fun hc => hafter (congrArg some hc)) htag]
          exact .keep c (ih rest)

/-! ## What is left to be read -/

/-- a tag that was escaped is read as text -/
theorem tags_escaped (hslashes : ∀ c ∈ slashes, c = '\\') (htag : tagAt? after = some (body, rest)) (ds : List Char) :
    tags (slashes ++ slashes ++ ['\\', '['] ++ body ++ [']'] ++ ds) = tags ds := by
  obtain ⟨d, mid, rfl, -, hd, hclosed, hopen⟩ := tagAt?_eq_some_iff.1 htag
  have hread : tagAt? ('[' :: d :: mid ++ ']' :: ds) = some (d :: mid, ds) :=
    tagAt?_eq_some_iff.2 ⟨d, mid, rfl, rfl, hd, hclosed, hopen⟩
  have hall : ∀ c ∈ slashes ++ slashes ++ ['\\'], c = '\\' := by
    simp only [List.mem_append, List.mem_singleton]
    rintro c ((hc | hc) | hc)
    · exact hslashes c hc
    · exact hslashes c hc
    · exact hc
  have hodd : (slashes ++ slashes ++ ['\\']).length % 2 = 1 := by
    simp only [List.length_append, List.length_singleton]
    omega
  have htags := tags_tag hall hread
  rw [if_pos hodd, List.nil_append] at htags
  rw [← htags]
  simp

/-- a character that is copied begins no tag in what is left either -/
theorem tagAt?_copied {more : List Char} (hrest : upToClose [] rest = none) (htag : tagAt? (c :: more) = none) (fuel : Nat) :
    tagAt? (c :: escapeTags fuel more ++ rest) = none := by
  have hcopied : tagAt? (c :: escapeTags fuel more) = none := tagAt?_of_slashed (.keep c (slashed_escapeTags fuel more)) htag
  by_cases hclose : c = ']'
  · rw [hclose]
    exact tagAt?_of_ne (by decide)
  · exact tagAt?_append hrest hclose hcopied

/-- **No tag is left** of a text that is escaped: what is read are the tags behind it, after the backslashes that it ends
with. By induction on what is escaped step by step, for each step of escaping is one step of reading what it leaves. -/
theorem exists_tags_escapeTags (hrest : upToClose [] rest = none) (hfuel : cs.length < fuel) :
    ∃ slashes, (∀ c ∈ slashes, c = '\\') ∧ tags (escapeTags fuel cs ++ rest) = tags (slashes ++ rest) := by
  induction fuel generalizing cs with
  | zero => exact absurd hfuel (Nat.not_lt_zero _)
  | succ fuel ih =>
    obtain ⟨slashes, after, rfl, hslashes, hafter⟩ := exists_slashes cs
    rw [List.length_append] at hfuel
    cases htag : tagAt? after with
    | some t =>
      have hlt := length_lt_of_tagAt? htag
      rw [escapeTags_tag hslashes htag, List.append_assoc _ _ rest, tags_escaped hslashes htag]
      exact ih (by omega)
    | none =>
      cases after with
      | nil =>
        -- nothing but backslashes
        refine ⟨slashes, hslashes, ?_⟩
        cases slashes with
        | nil => rfl
        | cons b slashes =>
          rw [escapeTags_slashes hslashes (List.cons_ne_nil b slashes) hafter htag]
          cases fuel <;> simp [escapeTags]
      | cons c more =>
        have hc : c ≠ '\\' := fun hc => hafter (congrArg some hc)
        rw [List.length_cons] at hfuel
        cases slashes with
        | nil =>
          have hcopied : tags (c :: (escapeTags fuel more ++ rest)) = tags (escapeTags fuel more ++ rest) :=
            tags_char hc (tagAt?_copied hrest htag fuel)
          rw [List.nil_append, escapeTags_char hc htag, List.cons_append, hcopied]
          exact ih (by simp at hfuel; omega)
        | cons b slashes =>
          -- the backslashes are copied first
          rw [List.length_cons] at hfuel
          obtain ⟨fuel, rfl⟩ := Nat.exists_eq_add_of_lt (show 0 < fuel by omega)
          have hcopied : escapeTags (0 + fuel + 1) (c :: more) = c :: escapeTags (0 + fuel) more := escapeTags_char hc htag
          have hhead : (c :: escapeTags (0 + fuel) more ++ rest).head? ≠ some '\\' := hafter
          obtain ⟨left, hleft, htags⟩ := ih (show (c :: more).length < 0 + fuel + 1 by rw [List.length_cons]; omega)
          refine ⟨left, hleft, ?_⟩
          rw [escapeTags_slashes hslashes (List.cons_ne_nil b slashes) hafter htag, List.append_assoc, hcopied,
            tags_slashes hslashes hhead (tagAt?_copied hrest htag _), ← htags, hcopied]

/-- a text is escaped by its tags, and perhaps by a backslash at its end -/
theorem exists_escape_eq (cs : List Char) :
    ∃ tail, escape cs = escapeTags (cs.length + 1) cs ++ tail ∧ ∀ c ∈ tail, c = '\\' := by
  unfold escape
  dsimp only
  split
  · exact ⟨[], (List.append_nil _).symm, nofun⟩
  · exact ⟨['\\'], rfl, by simp⟩
  · exact ⟨[], (List.append_nil _).symm, nofun⟩

theorem upToClose_slashes (hslashes : ∀ c ∈ slashes, c = '\\') (hrest : upToClose [] rest = none) :
    upToClose [] (slashes ++ rest) = none := by
  cases h : upToClose [] (slashes ++ rest) with
  | none => rfl
  | some t =>
    obtain ⟨mid, heq, -, hclosed, hopen⟩ := upToClose_eq_some_iff.1 h
    rcases List.append_eq_append_iff.1 heq with ⟨as, rfl, hrest'⟩ | ⟨as, hfront, hrest'⟩
    · have hclose : upToClose [] rest = some (as, t.2) := upToClose_eq_some_iff.2
        ⟨as, hrest', rfl, fun h => hclosed (List.mem_append_right _ h), fun h => hopen (List.mem_append_right _ h)⟩
      rw [hclose] at hrest
      cases hrest
    · cases as with
      | nil =>
        have hclose : upToClose [] rest = some ([], t.2) :=
          upToClose_eq_some_iff.2 ⟨[], hrest'.symm, rfl, List.not_mem_nil, List.not_mem_nil⟩
        rw [hclose] at hrest
        cases hrest
      | cons b as =>
        have hb := hslashes b (hfront ▸ List.mem_append_right _ List.mem_cons_self)
        rw [hb] at hrest'
        exact absurd (List.cons.inj hrest').1 (by decide)

/-- what is read behind an escaped text -/
theorem exists_tags_escape (cs : List Char) (hrest : upToClose [] rest = none) :
    ∃ slashes, (∀ c ∈ slashes, c = '\\') ∧ tags (escape cs ++ rest) = tags (slashes ++ rest) := by
  obtain ⟨tail, hescape, htail⟩ := exists_escape_eq cs
  obtain ⟨slashes, hslashes, htags⟩ := exists_tags_escapeTags (upToClose_slashes htail hrest) (Nat.lt_succ_self cs.length)
  refine ⟨slashes ++ tail, fun c hc => (List.mem_append.1 hc).elim (hslashes c) (htail c), ?_⟩
  rw [hescape, List.append_assoc, htags, List.append_assoc]

theorem tags_of_slashes (hslashes : ∀ c ∈ slashes, c = '\\') : tags slashes = [] := by
  refine tags_of_not_mem fun h => ?_
  cases hslashes _ h

/-- **No tag is left of an escaped text** -/
theorem tags_escape (cs : List Char) : tags (escape cs) = [] := by
  have hclosed : upToClose [] [] = none := rfl
  obtain ⟨slashes, hslashes, htags⟩ := exists_tags_escape cs hclosed
  rw [List.append_nil, List.append_nil, tags_of_slashes hslashes] at htags
  exact htags

end ChangeLint.Markup
