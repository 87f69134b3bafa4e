/-
What reports rely on, of every lawful terminal and of one that is.

Results:
- `Lawful.accepts_bare`, `Lawful.accepts_styled`: bare texts are accepted, also in a style;
- `colorless_lawful`: a terminal without colors is lawful, whatever its width; it draws what it accepts, and no text is
  refused once it is escaped.
-/
import ChangeLint.Proofs.Except
import ChangeLint.Proofs.Markup.Escaping
import ChangeLint.Proofs.Text.Blank
import ChangeLint.Terminal.Colorless

namespace ChangeLint.Terminal

variable {t : Terminal} {style text rest markup : String}

/-! ## Lawful terminals -/

theorem isStyle_red : IsStyle "red" := by decide
theorem isStyle_redBold : IsStyle "red bold" := by decide
theorem isStyle_yellow : IsStyle "yellow" := by decide
theorem isStyle_green : IsStyle "green" := by decide

namespace Lawful

theorem accepts_bare (h : t.Lawful) (htext : IsBare text) : t.Accepts text := by
  have haccepts := h.bare text "" htext h.nothing
  rwa [String.append_empty] at haccepts

/-- an error is shown in its style, whatever it says -/
theorem accepts_error (h : t.Lawful) (text : String) : t.Accepts (Terminal.styled "red" "Error:" ++ " " ++ t.escape text) := by
  have haccepts := h.styled "red" "Error:" _ isStyle_red (by decide) (h.bare " " _ (by decide) (h.escaped text))
  rwa [← String.append_assoc] at haccepts

theorem accepts_styled (h : t.Lawful) (hstyle : IsStyle style) (htext : IsBare text) :
    t.Accepts (Terminal.styled style text) := by
  have haccepts := h.styled style text "" hstyle htext h.nothing
  rwa [String.append_empty] at haccepts

end Lawful

/-! ## The terminal without colors -/

open Markup

variable {width : Nat}

/-- markup is accepted exactly if every closing tag closes an open one -/
theorem colorless_accepts_iff :
    (colorless width).Accepts markup ↔ ((tags markup.toList).foldlM behind? []).isSome := by
  rw [← exists_plain_iff, Accepts]
  exact exists_map_eq_ok.trans exists_mapError_eq_ok

theorem not_mem_of_isStyle (h : IsStyle style) {c : Char} (hc : ¬ (('a' ≤ c ∧ c ≤ 'z') ∨ c = ' ')) : c ∉ style.toList :=
  fun hmem => hc (h.letters c hmem)

theorem isBlank_letter {c : Char} (h : 'a' ≤ c ∧ c ≤ 'z') : Text.isBlank c = false := by
  have hall : ∀ n < 123, 97 ≤ n → Text.isBlank (Char.ofNat n) = false := by decide
  have hc := hall c.toNat (Nat.lt_succ_of_le h.2) h.1
  rwa [Char.ofNat_toNat] at hc

theorem trim_style (h : IsStyle style) : Text.trim Text.isBlank style.toList = style.toList := by
  have hblank : ∀ c ∈ style.toList, c ≠ ' ' → Text.isBlank c = false :=
    fun c hc hne => isBlank_letter ((h.letters c hc).resolve_right hne)
  refine Text.trim_eq_self_of_ends (fun c hc => ?_) fun c hc => ?_
  · exact hblank c (List.mem_of_mem_head? hc) fun he => h.begins (he ▸ hc)
  · exact hblank c (List.mem_of_mem_getLast? hc) fun he => h.ends (he ▸ hc)

theorem takeWhile_style (h : IsStyle style) : style.toList.takeWhile (· != '=') = style.toList := by
  refine List.takeWhile_eq_self_iff.2 fun c hc => bne_iff_ne.2 ?_
  rintro rfl
  exact not_mem_of_isStyle h (by decide) hc

/-- a style that is opened is closed by its tag -/
theorem behind?_style (h : IsStyle style) :
    behind? [] style.toList = some [canonical style.toList] ∧
      behind? [canonical style.toList] ('/' :: style.toList) = some [] := by
  have hslash : ('/' :: style.toList).takeWhile (· != '=') = '/' :: style.toList := by
    rw [List.takeWhile_cons_of_pos (by decide), takeWhile_style h]
  have hne : style.toList ≠ [] := fun hnil => h.nonempty (String.toList_eq_nil_iff.1 hnil)
  constructor
  · rw [behind?, takeWhile_style h]
    split
    · rename_i closing heq
      exact absurd (heq ▸ List.mem_cons_self) (not_mem_of_isStyle h (c := '/') (by decide))
    · rfl
  · rw [behind?, hslash]
    simp [trim_style h, hne, close?]

theorem tagAt?_opening (h : IsStyle style) (rest : List Char) :
    tagAt? ('[' :: style.toList ++ ']' :: rest) = some (style.toList, rest) := by
  obtain ⟨d, mid, hstyle⟩ := List.exists_cons_of_ne_nil fun hnil => h.nonempty (String.toList_eq_nil_iff.1 hnil)
  have hletter : 'a' ≤ d ∧ d ≤ 'z' :=
    (h.letters d (hstyle ▸ List.mem_cons_self)).resolve_right fun he => h.begins (by rw [hstyle, he]; rfl)
  have hmid : ∀ {c}, ¬ (('a' ≤ c ∧ c ≤ 'z') ∨ c = ' ') → c ∉ mid :=
    fun hc hmem => not_mem_of_isStyle h hc (hstyle ▸ List.mem_cons_of_mem d hmem)
  exact tagAt?_eq_some_iff.2 ⟨d, mid, hstyle, by rw [hstyle], by simp [beginsTag, hletter], hmid (by decide), hmid (by decide)⟩

theorem tagAt?_closing (h : IsStyle style) (rest : List Char) :
    tagAt? ('[' :: '/' :: style.toList ++ ']' :: rest) = some ('/' :: style.toList, rest) :=
  tagAt?_eq_some_iff.2 ⟨'/', style.toList, rfl, rfl, by decide, not_mem_of_isStyle h (by decide),
    not_mem_of_isStyle h (by decide)⟩

theorem toList_styled (style text : String) :
    (styled style text).toList = '[' :: style.toList ++ ']' :: (text.toList ++ ('[' :: '/' :: style.toList ++ [']'])) := by
  simp [styled]

theorem bare_of_isBare (h : IsBare text) : ∀ c ∈ text.toList, c ≠ '[' ∧ c ≠ '\\' := by
  intro c hc
  simpa using h c hc

/-- the tags of a bare text in a style, and of what follows it -/
theorem tags_styled (hstyle : IsStyle style) (htext : IsBare text) (rest : List Char) :
    tags ((styled style text).toList ++ rest) = style.toList :: ('/' :: style.toList) :: tags rest := by
  have hopening := @tags_tag _ _ [] _ nofun (tagAt?_opening hstyle (text.toList ++ ('[' :: '/' :: style.toList ++ ']' :: rest)))
  have hclosing := @tags_tag _ _ [] _ nofun (tagAt?_closing hstyle rest)
  have hsplit : (styled style text).toList ++ rest =
      '[' :: style.toList ++ ']' :: (text.toList ++ ('[' :: '/' :: style.toList ++ ']' :: rest)) := by
    simp [toList_styled]
  rw [hsplit]
  exact hopening.trans (congrArg (style.toList :: ·) ((tags_of_bare (bare_of_isBare htext) _).trans hclosing))

/-- the tags of an escaped text in a style: that which closes the style is read, or made text by the end of the text -/
theorem tags_enclosed (hstyle : IsStyle style) {before : String} (hbefore : IsBare before) (text : String) :
    tags (styled style (before ++ String.ofList (Markup.escape text.toList))).toList = [style.toList] ∨
      tags (styled style (before ++ String.ofList (Markup.escape text.toList))).toList =
        [style.toList, '/' :: style.toList] := by
  have hclosed : upToClose [] ('[' :: '/' :: style.toList ++ [']']) = none := rfl
  obtain ⟨slashes, hslashes, htags⟩ := exists_tags_escape text.toList hclosed
  have hread := tags_tag hslashes (tagAt?_closing hstyle [])
  have hopening := @tags_tag _ _ [] _ nofun
    (tagAt?_opening hstyle (before.toList ++ (Markup.escape text.toList ++ ('[' :: '/' :: style.toList ++ [']']))))
  have hall : tags (styled style (before ++ String.ofList (Markup.escape text.toList))).toList =
      style.toList :: tags (slashes ++ ('[' :: '/' :: style.toList ++ [']'])) := by
    rw [tags_of_bare (bare_of_isBare hbefore), htags] at hopening
    rw [toList_styled]
    simpa using hopening
  rw [hall, hread]
  split_ifs
  · exact .inl rfl
  · exact .inr rfl

/-- rows are shown when the markup of all their cells is accepted -/
theorem exists_shownRows_iff {s : Sheet} (h : ∀ row ∈ s.rows, row.length = s.columns.length) :
    (∃ rows, shownRows s = .ok rows) ↔ ∀ row ∈ s.rows, ∀ cell ∈ row, (colorless width).Accepts cell := by
  have hshown : ∀ cell, (∃ cs, shown cell = .ok cs) ↔ (colorless width).Accepts cell := fun _ => exists_map_eq_ok.symm
  rw [shownRows, exists_bind_eq_ok]
  simp only [pure, Except.pure, Except.ok.injEq, exists_eq', and_true, exists_mapM_eq_ok, List.mem_range, hshown]
  constructor
  · intro hall row hrow cell hcell
    obtain ⟨i, hi, rfl⟩ := List.mem_iff_getElem.1 hcell
    have haccepts := hall i (h row hrow ▸ hi) row hrow
    rwa [List.getD_eq_getElem?_getD, List.getElem?_eq_getElem hi] at haccepts
  · intro hall i hi row hrow
    have hi' : i < row.length := h row hrow ▸ hi
    rw [List.getD_eq_getElem?_getD, List.getElem?_eq_getElem hi']
    exact hall row hrow _ (List.getElem_mem hi')

/-- **The terminal without colors is lawful**, whatever its width -/
theorem colorless_lawful (width : Nat) : (colorless width).Lawful where
  nothing := colorless_accepts_iff.2 rfl
  bare text rest htext hrest := by
    rw [colorless_accepts_iff] at hrest ⊢
    rwa [String.toList_append, tags_of_bare (bare_of_isBare htext)]
  styled style text rest hstyle htext hrest := by
    rw [colorless_accepts_iff] at hrest ⊢
    obtain ⟨hopened, hclosed⟩ := behind?_style hstyle
    rw [String.toList_append, tags_styled hstyle htext, List.foldlM_cons, hopened, Option.bind_eq_bind, Option.bind_some,
      List.foldlM_cons, hclosed]
    exact hrest
  escaped text := by
    have htext : ((colorless width).escape text).toList = Markup.escape text.toList := String.toList_ofList
    rw [colorless_accepts_iff, htext, tags_escape]
    rfl
  enclosed style before text hstyle hbefore := by
    obtain ⟨hopened, hclosed⟩ := behind?_style hstyle
    rw [colorless_accepts_iff]
    rcases tags_enclosed hstyle hbefore text with htags | htags
    · have hread : tags (Terminal.styled style (before ++ (colorless width).escape text)).toList = [style.toList] := htags
      simp [hread, hopened]
    · have hread : tags (Terminal.styled style (before ++ (colorless width).escape text)).toList =
        [style.toList, '/' :: style.toList] := htags
      simp [hread, hopened, hclosed]
  table s h := by
    have htable : (∃ ls, (colorless width).table s = .ok ls) ↔ ∃ rows, shownRows s = .ok rows := exists_map_eq_ok
    rw [htable, exists_shownRows_iff h.rows]

end ChangeLint.Terminal
