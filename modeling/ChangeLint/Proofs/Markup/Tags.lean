/-
The tags of markup, and when they are refused.

Of markup only the tags matter. `tags` are the bodies of those that are read, in their order; they do not depend on the text
around them, nor on how far into a text one is (`bodies_pieces`). Markup is shown exactly if each closing tag closes one that is
open (`exists_plain_iff`).

Results:
- `tagAt?_eq_some_iff`: a tag stands between its brackets, and no bracket is in it;
- `tags_char`, `tags_slashes`, `tags_tag`: the tags of a text from those of a later part;
- `exists_plain_iff`: when markup is shown.
-/
import ChangeLint.Markup.Basic
import Mathlib.Data.List.Infix

namespace ChangeLint.Markup

variable {cs ds rest body found mid slashes after : List Char} {c : Char} {fuel fuel' pos pos' : Nat}

/-! ## One tag -/

/-- what comes before a closing bracket holds no bracket -/
theorem upToClose_eq_some_iff : upToClose found cs = some (body, rest) ↔
    ∃ mid, cs = mid ++ ']' :: rest ∧ body = found.reverse ++ mid ∧ ']' ∉ mid ∧ '[' ∉ mid := by
  induction cs generalizing found with
  | nil => simp [upToClose]
  | cons c cs ih =>
    rw [upToClose]
    split_ifs with hclose hopen
    · constructor
      · intro h
        cases h
        exact ⟨[], by rw [hclose]; rfl, by simp, List.not_mem_nil, List.not_mem_nil⟩
      · rintro ⟨mid, hmid, rfl, hno, -⟩
        cases mid with
        | nil => rw [(List.cons.inj hmid).2, List.append_nil]
        | cons d mid => exact absurd (List.mem_cons.2 (.inl ((List.cons.inj hmid).1 ▸ hclose.symm))) hno
    · constructor
      · intro h
        cases h
      · rintro ⟨mid, hmid, -, -, hno⟩
        cases mid with
        | nil => exact absurd (List.cons.inj hmid).1 hclose
        | cons d mid => exact absurd (List.mem_cons.2 (.inl ((List.cons.inj hmid).1 ▸ hopen.symm))) hno
    · rw [ih]
      constructor
      · rintro ⟨mid, rfl, rfl, hno, hno'⟩
        exact ⟨c :: mid, rfl, by simp, by simp [hno, Ne.symm hclose], by simp [hno', Ne.symm hopen]⟩
      · rintro ⟨mid, hmid, rfl, hno, hno'⟩
        cases mid with
        | nil => exact absurd (List.cons.inj hmid).1 hclose
        | cons d mid =>
          obtain ⟨rfl, rfl⟩ := List.cons.inj hmid
          exact ⟨mid, rfl, by simp, fun h => hno (List.mem_cons_of_mem c h), fun h => hno' (List.mem_cons_of_mem c h)⟩

/-- **A tag** stands between its brackets -/
theorem tagAt?_eq_some_iff : tagAt? cs = some (body, rest) ↔
    ∃ d mid, body = d :: mid ∧ cs = '[' :: d :: mid ++ ']' :: rest ∧ beginsTag d = true ∧ ']' ∉ mid ∧ '[' ∉ mid := by
  unfold tagAt?
  split
  · rename_i d more
    split_ifs with hd
    · rw [Option.map_eq_some_iff]
      constructor
      · rintro ⟨⟨part, after⟩, hpart, heq⟩
        cases heq
        obtain ⟨mid, rfl, hmid, hclosed, hopen⟩ := upToClose_eq_some_iff.1 hpart
        obtain rfl : part = mid := hmid
        exact ⟨d, part, rfl, rfl, hd, hclosed, hopen⟩
      · rintro ⟨d', mid, rfl, heq, -, hclosed, hopen⟩
        obtain ⟨rfl, rfl⟩ : d = d' ∧ more = mid ++ ']' :: rest := by simpa using heq
        exact ⟨(mid, rest), upToClose_eq_some_iff.2 ⟨mid, rfl, rfl, hclosed, hopen⟩, rfl⟩
    · constructor
      · intro h
        cases h
      · rintro ⟨d', mid, -, heq, hd', -⟩
        obtain ⟨rfl, -⟩ : d = d' ∧ more = mid ++ ']' :: rest := by simpa using heq
        exact absurd hd' hd
  · rename_i hno
    constructor
    · intro h
      cases h
    · rintro ⟨d, mid, -, rfl, -⟩
      exact absurd rfl (hno d (mid ++ ']' :: rest))

theorem tagAt?_of_ne (hc : c ≠ '[') : tagAt? (c :: rest) = none := by
  unfold tagAt?
  split
  · rename_i heq
    exact absurd (List.cons.inj heq).1 hc
  · rfl

theorem head?_of_tagAt? (h : tagAt? cs = some (body, rest)) : cs.head? ≠ some '\\' := by
  obtain ⟨d, mid, -, rfl, -⟩ := tagAt?_eq_some_iff.1 h
  simp

theorem length_lt_of_tagAt? (h : tagAt? cs = some (body, rest)) : rest.length < cs.length := by
  obtain ⟨d, mid, -, rfl, -⟩ := tagAt?_eq_some_iff.1 h
  simp
  omega

/-! ## Backslashes -/

/-- backslashes and what stands behind them -/
theorem span_slashes (hslashes : ∀ c ∈ slashes, c = '\\') (hafter : after.head? ≠ some '\\') :
    (slashes ++ after).span (fun c => decide (c = '\\')) = (slashes, after) := by
  have hall : ∀ c ∈ slashes, decide (c = '\\') = true := fun c hc => decide_eq_true (hslashes c hc)
  rw [List.span_eq_takeWhile_dropWhile, List.takeWhile_append_of_pos hall, List.dropWhile_append_of_pos hall]
  cases after with
  | nil => simp
  | cons d after =>
    have hd : decide (d = '\\') = false := decide_eq_false fun hd => hafter (by rw [hd]; rfl)
    rw [List.takeWhile_cons_of_neg (by simp [hd]), List.dropWhile_cons_of_neg (by simp [hd]), List.append_nil]

/-- a text begins with some backslashes, and with no more -/
theorem exists_slashes (cs : List Char) :
    ∃ slashes after, cs = slashes ++ after ∧ (∀ c ∈ slashes, c = '\\') ∧ after.head? ≠ some '\\' := by
  induction cs with
  | nil => exact ⟨[], [], rfl, nofun, nofun⟩
  | cons c cs ih =>
    by_cases hc : c = '\\'
    · obtain ⟨slashes, after, rfl, hslashes, hafter⟩ := ih
      exact ⟨c :: slashes, after, rfl, List.forall_mem_cons.2 ⟨hc, hslashes⟩, hafter⟩
    · exact ⟨[], c :: cs, rfl, nofun, fun h => hc (Option.some.inj h)⟩

/-! ## The tags of a text -/

/-- the body of a piece that is a tag -/
def Piece.body? : Piece → Option (List Char)
  | .text _ => none
  | .tag body _ => some body

/-- the bodies of the tags among pieces -/
def bodies (ps : List Piece) : List (List Char) := ps.filterMap Piece.body?

/-- the bodies of the tags of markup -/
def tags (cs : List Char) : List (List Char) := bodies (pieces (cs.length + 1) 0 [] cs)

theorem bodies_putText (cs : List Char) (ps : List Piece) : bodies (putText cs ps) = bodies ps := by
  unfold putText
  split_ifs <;> rfl

/-- a character that begins no tag is passed over -/
theorem pieces_char (fuel pos : Nat) (found : List Char) (hc : c ≠ '\\') (htag : tagAt? (c :: rest) = none) :
    pieces (fuel + 1) pos found (c :: rest) = pieces fuel (pos + 1) (c :: found) rest := by
  have hspan := @span_slashes [] (c :: rest) nofun fun h => hc (Option.some.inj h)
  rw [List.nil_append] at hspan
  simp only [pieces, hspan, htag, List.isEmpty_nil, if_true]

/-- so are backslashes before no tag, all at once -/
theorem pieces_slashes (fuel pos : Nat) (found : List Char) (hslashes : ∀ c ∈ slashes, c = '\\') (hne : slashes ≠ [])
    (hafter : after.head? ≠ some '\\') (htag : tagAt? after = none) :
    pieces (fuel + 1) pos found (slashes ++ after) = pieces fuel (pos + slashes.length) (slashes ++ found) after := by
  have hspan := span_slashes hslashes hafter
  obtain ⟨c, slashes, rfl⟩ := List.exists_cons_of_ne_nil hne
  rw [List.cons_append] at hspan ⊢
  simp only [pieces, hspan, htag, List.isEmpty_cons, Bool.false_eq_true, if_false]

/-- a tag is read, unless it stands behind an odd number of backslashes -/
theorem bodies_pieces_of_tag (fuel pos : Nat) (found : List Char) (hslashes : ∀ c ∈ slashes, c = '\\')
    (htag : tagAt? after = some (body, rest)) : ∃ pos', bodies (pieces (fuel + 1) pos found (slashes ++ after)) =
      (if slashes.length % 2 = 1 then [] else [body]) ++ bodies (pieces fuel pos' [] rest) := by
  have hspan := span_slashes hslashes (head?_of_tagAt? htag)
  obtain ⟨c, cs, hcs⟩ : ∃ c cs, slashes ++ after = c :: cs := by
    refine List.exists_cons_of_ne_nil fun hnil => ?_
    rw [(List.append_eq_nil_iff.1 hnil).2] at htag
    cases htag
  rw [hcs] at hspan ⊢
  refine ⟨pos + slashes.length + body.length + 2, ?_⟩
  simp only [pieces, hspan, htag, bodies_putText]
  split_ifs <;> rfl

/-- **The tags of a text** are the same wherever it stands: by induction on the fuel, and one step of reading is the same for
both -/
theorem bodies_pieces (h : cs.length < fuel) (h' : cs.length < fuel') :
    bodies (pieces fuel pos found cs) = bodies (pieces fuel' pos' ds cs) := by
  induction fuel generalizing fuel' pos pos' found ds cs with
  | zero => exact absurd h (Nat.not_lt_zero _)
  | succ fuel ih =>
    obtain ⟨fuel', rfl⟩ := Nat.exists_eq_succ_of_ne_zero (Nat.ne_zero_of_lt h')
    obtain ⟨slashes, after, rfl, hslashes, hafter⟩ := exists_slashes cs
    rw [List.length_append] at h h'
    cases htag : tagAt? after with
    | some t =>
      obtain ⟨p, hp⟩ := bodies_pieces_of_tag fuel pos found hslashes htag
      obtain ⟨q, hq⟩ := bodies_pieces_of_tag fuel' pos' ds hslashes htag
      have hlt := length_lt_of_tagAt? htag
      have hrest : bodies (pieces fuel p [] t.2) = bodies (pieces fuel' q [] t.2) := ih (by omega) (by omega)
      exact hp.trans (by rw [hrest]; exact hq.symm)
    | none =>
      cases slashes with
      | cons b slashes =>
        have hne := List.cons_ne_nil b slashes
        rw [pieces_slashes fuel pos found hslashes hne hafter htag, pieces_slashes fuel' pos' ds hslashes hne hafter htag]
        rw [List.length_cons] at h h'
        exact ih (by omega) (by omega)
      | nil =>
        cases after with
        | nil => exact (bodies_putText _ _).trans (bodies_putText _ _).symm
        | cons c rest =>
          have hc : c ≠ '\\' := fun hc => hafter (congrArg some hc)
          rw [List.nil_append, pieces_char fuel pos found hc htag, pieces_char fuel' pos' ds hc htag]
          rw [List.length_cons, List.length_nil] at h h'
          exact ih (by omega) (by omega)

theorem tags_eq (h : cs.length < fuel) : bodies (pieces fuel pos found cs) = tags cs := bodies_pieces h (Nat.lt_succ_self _)

/-- a character that begins no tag -/
theorem tags_char (hc : c ≠ '\\') (htag : tagAt? (c :: rest) = none) : tags (c :: rest) = tags rest := by
  rw [tags, pieces_char _ _ _ hc htag, tags_eq (by simp)]

/-- backslashes before no tag -/
theorem tags_slashes (hslashes : ∀ c ∈ slashes, c = '\\') (hafter : after.head? ≠ some '\\') (htag : tagAt? after = none) :
    tags (slashes ++ after) = tags after := by
  by_cases hne : slashes = []
  · rw [hne, List.nil_append]
  · have hlength := List.length_pos_iff.2 hne
    rw [tags, pieces_slashes _ _ _ hslashes hne hafter htag, tags_eq (by rw [List.length_append]; omega)]

/-- a tag behind backslashes -/
theorem tags_tag (hslashes : ∀ c ∈ slashes, c = '\\') (htag : tagAt? after = some (body, rest)) :
    tags (slashes ++ after) = (if slashes.length % 2 = 1 then [] else [body]) ++ tags rest := by
  have hlt := length_lt_of_tagAt? htag
  obtain ⟨pos, hpieces⟩ := bodies_pieces_of_tag (slashes ++ after).length 0 [] hslashes htag
  rw [tags, hpieces, tags_eq (by rw [List.length_append]; omega)]

/-! ## Markup that is refused -/

/-- the names that are open behind a tag; there are none behind a closing tag that closes nothing -/
def behind? (opened : List String) (body : List Char) : Option (List String) :=
  match body.takeWhile (· != '=') with
  | '/' :: closing =>
    let closing := Text.trim Text.isBlank closing
    if closing.isEmpty then opened.tail? else close? (canonical closing) opened
  | name => some (canonical name :: opened)

/-- a tag is passed if some names are open behind it -/
theorem exists_render_tag_iff {ps : List Piece} {opened : List String} {n : Nat} :
    (∃ cs, render opened (.tag body n :: ps) = .ok cs) ↔
      ∃ opened', behind? opened body = some opened' ∧ ∃ cs, render opened' ps = .ok cs := by
  rw [render.eq_def, behind?]
  dsimp only
  cases body.takeWhile (· != '=') with
  | nil => simp
  | cons c closing =>
    by_cases hc : c = '/'
    · subst hc
      cases hempty : (Text.trim Text.isBlank closing).isEmpty with
      | true => cases opened <;> simp [hempty]
      | false =>
        cases hclose : close? (canonical (Text.trim Text.isBlank closing)) opened <;> simp [hempty, hclose]
    · simp [hc]

/-- pieces are shown exactly if every closing tag closes an open one -/
theorem exists_render_iff {ps : List Piece} {opened : List String} :
    (∃ cs, render opened ps = .ok cs) ↔ ((bodies ps).foldlM behind? opened).isSome := by
  induction ps generalizing opened with
  | nil => simp [render, bodies]
  | cons p ps ih =>
    cases p with
    | text cs =>
      rw [show bodies (.text cs :: ps) = bodies ps from rfl, ← ih, render]
      cases render opened ps <;> simp [Except.map]
    | tag body n =>
      rw [show bodies (.tag body n :: ps) = body :: bodies ps from rfl, List.foldlM_cons, exists_render_tag_iff]
      cases hbehind : behind? opened body with
      | none => simp
      | some opened' => simpa using ih

theorem tags_of_bare (h : ∀ c ∈ cs, c ≠ '[' ∧ c ≠ '\\') (rest : List Char) : tags (cs ++ rest) = tags rest := by
  induction cs with
  | nil => rfl
  | cons c cs ih =>
    obtain ⟨hbracket, hslash⟩ := h c List.mem_cons_self
    exact (tags_char hslash (tagAt?_of_ne hbracket)).trans (ih fun d hd => h d (List.mem_cons_of_mem c hd))

theorem tags_of_not_mem (h : '[' ∉ cs) : tags cs = [] := by
  have hnone : ∀ {ds}, '[' ∉ ds → tagAt? ds = none := by
    intro ds hds
    cases ds with
    | nil => rfl
    | cons c ds => exact tagAt?_of_ne fun hc => hds (hc ▸ List.mem_cons_self)
  induction hlength : cs.length using Nat.strong_induction_on generalizing cs with
  | _ n ih =>
    obtain ⟨slashes, after, rfl, hslashes, hafter⟩ := exists_slashes cs
    have hno : '[' ∉ after := fun hmem => h (List.mem_append_right _ hmem)
    rw [tags_slashes hslashes hafter (hnone hno)]
    cases after with
    | nil => rfl
    | cons c after =>
      rw [tags_char (fun hc => hafter (congrArg some hc)) (hnone hno)]
      refine ih after.length ?_ (fun hmem => hno (List.mem_cons_of_mem c hmem)) rfl
      simp only [List.length_append, List.length_cons] at hlength
      omega

/-- **Markup is shown** exactly if every closing tag closes an open one -/
theorem exists_plain_iff : (∃ shown, plain cs = .ok shown) ↔ ((tags cs).foldlM behind? []).isSome := by
  have hmap : ∀ x : Except Error (List Char), (∃ s, (x.map fun cs => cs.filter fun c => !isHidden c) = .ok s) ↔
      ∃ s, x = .ok s := by
    intro x
    cases x <;> simp [Except.map]
  rw [plain, hmap]
  split_ifs with hbracket
  · exact exists_render_iff
  · rw [tags_of_not_mem (by simpa using hbracket)]
    simp

end ChangeLint.Markup
