/-
Why TOML is refused for its numbers.

A reader takes what it reads off the front of its text, so what it leaves is an ending of that text; and where it refuses an
integer as too long, the text holds a run of that many decimal digits (`Within`). One lemma for each reader leads to keys and
values (`within_value`, by induction on the fuel), to statements, and to whole documents (`holdsRun_of_read`).
-/
import ChangeLint.Toml.Document
import Mathlib.Data.List.Infix

namespace ChangeLint.Toml

/-- decimal digits, which may have underscores between them -/
def IsRun (run : List Char) : Prop := ∀ c ∈ run, c.isDigit = true ∨ c = '_'

/-- a text holds a run of digits that an integer is refused for -/
def HoldsRun (cs : List Char) (e : Number.TooLong) : Prop :=
  ∃ run, run <:+: cs ∧ IsRun run ∧ Number.digitLimit < run.countP Char.isDigit ∧
    e = .reading (run.countP Char.isDigit)

/-- what a text shows of its refusal: for an integer there is such a run, and how deep it is nested is no reason -/
def Refusal.Grounded (cs : List Char) : Refusal → Prop
  | .malformed _ _ => True
  | .tooLong e => HoldsRun cs e
  | .tooDeep _ => False

/-- what a reader of a text finds: it leaves an ending of the text, or its refusal is grounded in it -/
def Within {α : Type} (left : α → List Char) (cs : List Char) : Except Refusal α → Prop
  | .ok a => left a <:+ cs
  | .error e => e.Grounded cs

variable {α β : Type} {cs rest : List Char} {left : α → List Char} {left' : β → List Char} {x : Except Refusal α}

/-! ## Readers one after another -/

theorem HoldsRun.mono {e : Number.TooLong} (h : HoldsRun rest e) (hrest : rest <:+ cs) : HoldsRun cs e := by
  obtain ⟨run, hrun, hlong⟩ := h
  exact ⟨run, hrun.trans hrest.isInfix, hlong⟩

theorem Refusal.Grounded.mono {e : Refusal} (h : e.Grounded rest) (hrest : rest <:+ cs) : e.Grounded cs := by
  cases e with
  | malformed reason left => trivial
  | tooLong e => exact HoldsRun.mono h hrest
  | tooDeep m => exact h

theorem Within.mono (h : Within left rest x) (hrest : rest <:+ cs) : Within left cs x := by
  cases x with
  | ok a => exact List.IsSuffix.trans h hrest
  | error e => exact Refusal.Grounded.mono h hrest

theorem Within.grounded {e : Refusal} (h : Within left cs x) (hx : x = .error e) : e.Grounded cs := by
  subst hx
  exact h

theorem Within.suffix {a : α} (h : Within left cs x) (hx : x = .ok a) : left a <:+ cs := by
  subst hx
  exact h

/-- what goes on where another reader has stopped stays within the text of both -/
theorem Within.bind {f : α → Except Refusal β} (h : Within left cs x) (hf : ∀ a, left a <:+ cs → Within left' cs (f a)) :
    Within left' cs (x >>= f) := by
  cases x with
  | ok a => exact hf a h
  | error e => exact h

theorem Within.map {f : α → β} (h : Within left cs x) (hf : ∀ a, left' (f a) <:+ left a) : Within left' cs (x.map f) := by
  cases x with
  | ok a => exact (hf a).trans h
  | error e => exact h

/-- a refusal that is about no number is grounded -/
theorem within_refuse (reason : Reason) (rest : List Char) : Within left cs (refuse reason rest) := trivial

theorem skipBlanks_suffix (cs : List Char) : skipBlanks cs <:+ cs := List.dropWhile_suffix _

theorem skipSpace_suffix (cs : List Char) : skipSpace cs <:+ cs := List.dropWhile_suffix _

theorem span_suffix (p : Char → Bool) (cs : List Char) : (cs.span p).2 <:+ cs := by
  rw [List.span_eq_takeWhile_dropWhile]
  exact List.dropWhile_suffix p

/-! ## Texts -/

theorem within_refuseControl (multiline : Bool) (part rest cs : List Char) :
    Within (fun _ => []) cs (refuseControl multiline part rest) := by
  unfold refuseControl
  split
  · exact List.nil_suffix
  · trivial

theorem suffix_of_upTo {t part : List Char} (h : upTo t cs = some (part, rest)) : rest <:+ cs := by
  induction cs generalizing part with
  | nil => cases h
  | cons c cs ih =>
    rw [upTo] at h
    split_ifs at h
    · cases h
      exact List.drop_suffix _ _
    · cases hupTo : upTo t cs with
      | none =>
        rw [hupTo] at h
        cases h
      | some found =>
        rw [hupTo] at h
        cases h
        exact (ih hupTo).trans (List.suffix_cons c cs)

theorem within_skipComment (cs : List Char) : Within id cs (skipComment cs) := by
  unfold skipComment
  split
  · rename_i cs
    refine (within_refuseControl false (cs.span (· != '\n')).1 (cs.span (· != '\n')).2 ('#' :: cs)).bind fun _ _ => ?_
    exact (span_suffix _ cs).trans (List.suffix_cons _ _)
  · exact List.suffix_refl cs

theorem within_literal (multiline : Bool) (closing : String) (cs : List Char) :
    Within Prod.snd cs (literal multiline closing cs) := by
  unfold literal
  split
  · exact within_refuse _ _
  · rename_i part rest hupTo
    exact (within_refuseControl multiline part (closing.toList ++ rest) cs).bind fun _ _ => suffix_of_upTo hupTo

theorem within_hexChar (n : Nat) (cs : List Char) : Within Prod.snd cs (hexChar n cs) := by
  unfold hexChar
  by_cases hlen : ((cs.take n).filterMap hexValue?).length ≠ n
  · rw [if_pos hlen]
    exact within_refuse _ _
  · rw [if_neg hlen]
    by_cases hcode : (((cs.take n).filterMap hexValue?).foldl (fun v d => v * 16 + d) 0).isValidChar
    · rw [dif_pos hcode]
      exact List.drop_suffix _ _
    · rw [dif_neg hcode]
      exact within_refuse _ _

theorem within_escape (multiline : Bool) (cs : List Char) : Within Prod.snd cs (escape multiline cs) := by
  unfold escape
  split
  · exact within_refuse _ _
  · rename_i c cs
    have hcs : cs <:+ c :: cs := List.suffix_cons c cs
    split_ifs
    · exact (skipSpace_suffix cs).trans hcs
    · split
      · exact List.nil_suffix
      · rename_i rest hblanks
        have hrest : '\n' :: rest <:+ cs := hblanks ▸ skipBlanks_suffix cs
        exact ((skipSpace_suffix rest).trans (List.suffix_cons _ rest)).trans (hrest.trans hcs)
      · exact within_refuse _ _
    · exact (within_hexChar 4 cs).mono hcs
    · exact (within_hexChar 8 cs).mono hcs
    · split
      · exact hcs
      · exact within_refuse _ _

theorem within_basic (multiline : Bool) (fuel : Nat) (found cs : List Char) :
    Within Prod.snd cs (basic multiline fuel found cs) := by
  induction fuel generalizing found cs with
  | zero => exact within_refuse _ _
  | succ fuel ih =>
    cases cs with
    | nil => exact within_refuse _ _
    | cons c rest =>
      have hrest : rest <:+ c :: rest := List.suffix_cons c rest
      unfold basic
      split_ifs
      · exact hrest
      · split
        · exact (List.suffix_append ['"', '"'] _).trans hrest
        · exact (ih _ rest).mono hrest
      · have hescape := (within_escape multiline rest).mono hrest
        split
        · rename_i e he
          exact hescape.grounded he
        · rename_i text after he
          exact (ih _ after).mono (hescape.suffix he)
      · exact within_refuse _ _
      · exact (ih _ rest).mono hrest

theorem extraQuotes_suffix (q : Char) (text cs : List Char) : (extraQuotes q text cs).2 <:+ cs := by
  unfold extraQuotes
  split
  · rename_i a b more
    split_ifs
    · exact List.suffix_append [a, b] more
    · exact List.suffix_cons a (b :: more)
    · exact List.suffix_refl _
  · split_ifs
    · exact List.nil_suffix
    · exact List.suffix_refl _
  · exact List.suffix_refl _

theorem skipFirstLine_suffix (cs : List Char) : skipFirstLine cs <:+ cs := by
  unfold skipFirstLine
  split
  · exact List.suffix_cons _ _
  · exact List.suffix_refl _

theorem within_oneLine (q : Char) (cs : List Char) : Within Prod.snd cs (oneLine q cs) := by
  unfold oneLine
  split_ifs
  · exact within_literal _ _ _
  · exact within_basic _ _ _ _

theorem within_severalLines (q : Char) (cs : List Char) : Within Prod.snd cs (severalLines q cs) := by
  have hbody := skipFirstLine_suffix cs
  unfold severalLines
  dsimp only
  split_ifs
  · exact ((within_literal _ _ _).mono hbody).bind fun _ h => (extraQuotes_suffix _ _ _).trans h
  · exact ((within_basic _ _ _ _).mono hbody).bind fun _ h => (extraQuotes_suffix _ _ _).trans h

theorem within_quoted (q : Char) (cs : List Char) : Within Prod.snd cs (quoted q cs) := by
  unfold quoted
  split
  · rename_i a b c rest
    split_ifs
    · exact (within_severalLines q rest).mono (List.suffix_append [a, b, c] rest)
    · exact (within_oneLine q _).mono (List.suffix_cons _ _)
  · exact (within_oneLine q _).mono (List.suffix_cons _ _)
  · exact within_oneLine q []

/-! ## Numbers and moments -/

/-- what a reader of digits finds: their run, with underscores, and the rest -/
def TakesRun (p : Char → Bool) (cs : List Char) (found : List Char × List Char) : Prop :=
  ∃ run, cs = run ++ found.2 ∧ (∀ c ∈ run, p c = true ∨ c = '_') ∧ run.countP p = found.1.length

variable {p : Char → Bool}

theorem TakesRun.none : TakesRun p cs ([], cs) := ⟨[], rfl, fun _ hc => absurd hc List.not_mem_nil, rfl⟩

theorem TakesRun.cons {c : Char} {ds : List Char} (hc : p c = true) (h : TakesRun p cs (ds, rest)) :
    TakesRun p (c :: cs) (c :: ds, rest) := by
  obtain ⟨run, hcs, hrun, hcount⟩ := h
  refine ⟨c :: run, by rw [hcs]; rfl, ?_, by simpa [hc] using hcount⟩
  intro d hd
  rcases List.mem_cons.1 hd with rfl | hd
  · exact .inl hc
  · exact hrun d hd

theorem TakesRun.underscore {found : List Char × List Char} (hp : p '_' = false) (h : TakesRun p cs found) :
    TakesRun p ('_' :: cs) found := by
  obtain ⟨run, hcs, hrun, hcount⟩ := h
  refine ⟨'_' :: run, by rw [hcs]; rfl, ?_, by simpa [hp] using hcount⟩
  intro d hd
  rcases List.mem_cons.1 hd with rfl | hd
  · exact .inr rfl
  · exact hrun d hd

theorem takesRun_more (hp : p '_' = false) (cs : List Char) : TakesRun p cs (digitRun.more p cs) := by
  fun_induction digitRun.more p cs with
  | case1 => exact .none
  | case2 d cs hd ih => exact (ih.cons hd).underscore hp
  | case3 d cs hd => exact .none
  | case4 c cs hne hc ih => exact ih.cons hc
  | case5 c cs hne hc => exact .none

theorem takesRun_digitRun (hp : p '_' = false) (cs : List Char) : TakesRun p cs (digitRun p cs) := by
  unfold digitRun
  split
  · exact .none
  · split_ifs with hc
    · exact (takesRun_more hp _).cons hc
    · exact .none

theorem TakesRun.suffix {found : List Char × List Char} (h : TakesRun p cs found) : found.2 <:+ cs := by
  obtain ⟨run, hcs, -⟩ := h
  exact ⟨run, hcs.symm⟩

/-- the digits before a point are a run -/
theorem takesRun_whole {ds : List Char} (h : whole? cs = some (ds, rest)) : TakesRun Char.isDigit cs (ds, rest) := by
  unfold whole? at h
  split at h
  · cases h
    exact ⟨['0'], rfl, by simp, rfl⟩
  · rename_i c cs _
    split_ifs at h
    exact Option.some.inj h ▸ takesRun_digitRun rfl (c :: cs)
  · cases h

theorem sign_suffix (cs : List Char) : (sign cs).2 <:+ cs := by
  unfold sign
  split
  · exact List.suffix_cons _ _
  · exact List.suffix_cons _ _
  · exact List.suffix_refl _

theorem fraction_suffix (cs : List Char) : (fraction cs).2 <:+ cs := by
  unfold fraction
  split
  · rename_i rest
    have hruns := (takesRun_digitRun (p := Char.isDigit) rfl rest).suffix
    split
    · exact List.suffix_refl _
    · exact hruns.trans (List.suffix_cons _ _)
  · exact List.suffix_refl _

theorem exponent_suffix (cs : List Char) : (exponent cs).2 <:+ cs := by
  unfold exponent
  split
  · rename_i c rest
    split_ifs
    · have hruns := (takesRun_digitRun (p := Char.isDigit) rfl (sign rest).2).suffix
      dsimp only
      split
      · exact List.suffix_refl _
      · rename_i ds after _ hds
        rw [hds] at hruns
        exact (List.IsSuffix.trans hruns (sign_suffix rest)).trans (List.suffix_cons c rest)
    · exact List.suffix_refl _
  · exact List.nil_suffix

theorem suffix_of_based {base n : Nat} (h : based base cs = some (n, rest)) : rest <:+ cs := by
  unfold based at h
  dsimp only at h
  split_ifs at h
  cases h
  exact (takesRun_digitRun (by rfl) cs).suffix

theorem suffix_of_marked {n : Nat} (h : marked? cs = some (n, rest)) : rest <:+ cs := by
  unfold marked? at h
  split at h
  · exact (suffix_of_based h).trans (List.suffix_append ['0', 'x'] _)
  · exact (suffix_of_based h).trans (List.suffix_append ['0', 'o'] _)
  · exact (suffix_of_based h).trans (List.suffix_append ['0', 'b'] _)
  · cases h

/-- **An integer is refused only for its own digits** -/
theorem within_number {r : Result Datum} (h : number? cs = some r) : Within Prod.snd cs r := by
  unfold number? at h
  cases hmarked : marked? cs with
  | some found =>
    rw [hmarked] at h
    cases h
    exact suffix_of_marked hmarked
  | none =>
    rw [hmarked] at h
    dsimp only at h
    cases hwhole : whole? (sign cs).2 with
    | none =>
      rw [hwhole] at h
      cases h
    | some found =>
      obtain ⟨ds, afterWhole⟩ := found
      rw [hwhole] at h
      have hruns := takesRun_whole hwhole
      have hrest : (exponent (fraction afterWhole).2).2 <:+ cs :=
        ((exponent_suffix _).trans (fraction_suffix _)).trans (hruns.suffix.trans (sign_suffix cs))
      simp only [Option.map_some, Option.some.injEq] at h
      subst h
      split
      · by_cases hlong : Number.digitLimit < ds.length
        · rw [Number.ofDigits, if_pos hlong]
          obtain ⟨run, hcs, hrun, hcount⟩ := hruns
          refine ⟨run, ?_, hrun, hcount ▸ hlong, by rw [hcount]⟩
          exact (hcs ▸ (List.prefix_append run afterWhole).isInfix).trans (sign_suffix cs).isInfix
        · rw [Number.ofDigits, if_neg hlong]
          exact hrest
      · exact hrest

theorem suffix_of_named {d : Datum} (h : namedReal? cs = some (d, rest)) : rest <:+ cs := by
  have hsign := sign_suffix cs
  unfold namedReal? at h
  dsimp only at h
  split at h
  · rename_i hbody
    cases h
    rw [hbody] at hsign
    exact (List.suffix_append ['i', 'n', 'f'] rest).trans hsign
  · rename_i hbody
    cases h
    rw [hbody] at hsign
    exact (List.suffix_append ['n', 'a', 'n'] rest).trans hsign
  · cases h

theorem suffix_of_two {lo hi n : Nat} (h : two? lo hi cs = some (n, rest)) : rest <:+ cs := by
  unfold two? at h
  split at h
  · dsimp only at h
    split_ifs at h
    cases h
    exact List.suffix_append [_, _] rest
  · cases h

theorem suffix_of_char {c : Char} (h : char? c cs = some rest) : rest <:+ cs := by
  unfold char? at h
  split at h
  · split_ifs at h
    cases h
    exact List.suffix_cons _ _
  · cases h

theorem microseconds_suffix (cs : List Char) : (microseconds cs).2 <:+ cs := by
  unfold microseconds
  split
  · rename_i rest
    have hspan := span_suffix Char.isDigit rest
    split
    · exact List.suffix_refl _
    · rename_i ds after _ hds
      rw [hds] at hspan
      exact List.IsSuffix.trans hspan (List.suffix_cons _ _)
  · exact List.suffix_refl _

theorem suffix_of_clock {time : Clock} (h : clock? cs = some (time, rest)) : rest <:+ cs := by
  unfold clock? at h
  simp only [bind, Option.bind_eq_some_iff, Prod.exists] at h
  obtain ⟨hour, cs1, h1, cs2, h2, minute, cs3, h3, cs4, h4, second, cs5, h5, h⟩ := h
  cases h
  exact (microseconds_suffix cs5).trans <| (suffix_of_two h5).trans <| (suffix_of_char h4).trans <|
    (suffix_of_two h3).trans <| (suffix_of_char h2).trans (suffix_of_two h1)

theorem offset_suffix (cs : List Char) : (offset cs).2 <:+ cs := by
  unfold offset
  split
  · exact List.nil_suffix
  · rename_i c rest
    split
    · exact List.suffix_cons c rest
    · split
      · dsimp only
        split
        · rename_i n after hfound
          simp only [bind, Option.bind_eq_some_iff, Prod.exists] at hfound
          obtain ⟨hour, cs1, h1, cs2, h2, minute, cs3, h3, h⟩ := hfound
          cases h
          exact ((suffix_of_two h3).trans <| (suffix_of_char h2).trans (suffix_of_two h1)).trans (List.suffix_cons c rest)
        · exact List.suffix_refl _
      · exact List.suffix_refl _

theorem suffix_of_day {d : Day} (h : day? cs = some (d, rest)) : rest <:+ cs := by
  unfold day? at h
  split at h
  · rename_i a b c e cs
    split at h
    · cases h
    simp only [bind, Option.bind_eq_some_iff, Prod.exists] at h
    obtain ⟨cs1, h1, month, cs2, h2, cs3, h3, day, cs4, h4, h⟩ := h
    cases h
    exact ((suffix_of_two h4).trans <| (suffix_of_char h3).trans <| (suffix_of_two h2).trans (suffix_of_char h1)).trans
      (List.suffix_append [a, b, c, e] cs)
  · cases h

theorem suffix_of_timeOfDay {time : Clock} {zone : Option Int} (h : timeOfDay? cs = some (time, zone, rest)) :
    rest <:+ cs := by
  unfold timeOfDay? at h
  split at h
  · rename_i c cs
    split_ifs at h
    simp only [bind, Option.bind_eq_some_iff, Prod.exists] at h
    obtain ⟨time', cs1, h1, h⟩ := h
    cases h
    exact ((offset_suffix cs1).trans (suffix_of_clock h1)).trans (List.suffix_cons c cs)
  · cases h

theorem within_moment {r : Result Datum} (h : moment? cs = some r) : Within Prod.snd cs r := by
  unfold moment? at h
  split at h
  · rename_i d after hday
    cases h
    split_ifs
    · exact within_refuse _ _
    · split
      · rename_i time zone rest htime
        exact (suffix_of_timeOfDay htime).trans (suffix_of_day hday)
      · exact suffix_of_day hday
  · cases hclock : clock? cs with
    | none =>
      rw [hclock] at h
      cases h
    | some found =>
      rw [hclock] at h
      cases h
      exact suffix_of_clock hclock

/-! ## Keys and values -/

theorem within_keyPart (cs : List Char) : Within Prod.snd cs (keyPart cs) := by
  unfold keyPart
  split
  · exact within_refuse _ _
  · rename_i c rest
    split
    · exact span_suffix isBareKey (c :: rest)
    · split
      · exact ((within_oneLine c rest).mono (List.suffix_cons c rest)).map fun _ => List.suffix_refl _
      · exact within_refuse _ _

theorem within_keyParts (fuel : Nat) (found : Key) (cs : List Char) : Within Prod.snd cs (keyParts fuel found cs) := by
  fun_induction keyParts fuel found cs with
  | case1 found fuel rest e he =>
    have hrest : skipBlanks rest <:+ '.' :: rest := (skipBlanks_suffix rest).trans (List.suffix_cons '.' rest)
    exact ((within_keyPart (skipBlanks rest)).mono hrest).grounded he
  | case2 found fuel rest name after he ih =>
    have hrest : skipBlanks rest <:+ '.' :: rest := (skipBlanks_suffix rest).trans (List.suffix_cons '.' rest)
    exact ih.mono ((skipBlanks_suffix after).trans (((within_keyPart _).mono hrest).suffix he))
  | case3 => exact List.suffix_refl _

theorem within_key (cs : List Char) : Within Prod.snd cs (key cs) := by
  unfold key
  refine (within_keyPart cs).bind fun found hrest => ?_
  exact (within_keyParts _ _ _).mono ((skipBlanks_suffix found.2).trans hrest)

theorem within_skipFiller (fuel : Nat) (cs : List Char) : Within id cs (skipFiller fuel cs) := by
  induction fuel generalizing cs with
  | zero => exact List.suffix_refl cs
  | succ fuel ih =>
    unfold skipFiller
    refine ((within_skipComment _).mono (skipSpace_suffix cs)).bind fun rest hrest => ?_
    split
    · exact hrest
    · exact (ih rest).mono hrest

theorem within_scalar (cs : List Char) : Within Prod.snd cs (scalar cs) := by
  unfold scalar
  split
  · rename_i found hword
    unfold word? at hword
    split at hword
    · cases hword
      exact List.suffix_append ['t', 'r', 'u', 'e'] _
    · cases hword
      exact List.suffix_append ['f', 'a', 'l', 's', 'e'] _
    · cases hword
  · split
    · rename_i r hmoment
      exact within_moment hmoment
    · split
      · rename_i r hnumber
        exact within_number hnumber
      · split
        · rename_i found hnamed
          exact suffix_of_named hnamed
        · exact within_refuse _ _

theorem within_addInline (marks : List Mark) (ms : Members) (k : Key) (d : Datum) (rest cs : List Char) :
    Within (fun _ => []) cs (addInline marks ms k d rest) := by
  unfold addInline
  split
  · exact within_refuse _ _
  · dsimp only
    split
    · exact within_refuse _ _
    · split
      · exact within_refuse _ _
      · split
        · exact within_refuse _ _
        · exact List.nil_suffix

section

variable {fuel : Nat}

theorem within_value_succ (hitems : ∀ found cs, Within Prod.snd cs (items fuel found cs))
    (hinline : ∀ marks ms cs, Within Prod.snd cs (inline fuel marks ms cs)) (cs : List Char) :
    Within Prod.snd cs (value (fuel + 1) cs) := by
  unfold value
  split
  · exact within_refuse _ _
  · exact within_refuse _ _
  · rename_i fuel' c rest hfuel
    cases hfuel
    have hrest : rest <:+ c :: rest := List.suffix_cons c rest
    split
    · exact (within_quoted c _).map fun _ => List.suffix_refl _
    · split
      · have hfiller := (within_skipFiller (c :: rest).length rest).mono hrest
        split
        · rename_i e he
          exact hfiller.grounded he
        · rename_i after he
          exact (List.suffix_cons _ after).trans (hfiller.suffix he)
        · rename_i body hne he
          exact (hitems [] body).mono (hfiller.suffix he)
      · split
        · have hblanks := (skipBlanks_suffix rest).trans hrest
          split
          · rename_i after he
            exact (List.suffix_cons _ after).trans (he ▸ hblanks)
          · exact (hinline [] [] _).mono hblanks
        · exact within_scalar _

theorem within_items_succ (hvalue : ∀ cs, Within Prod.snd cs (value fuel cs))
    (hitems : ∀ found cs, Within Prod.snd cs (items fuel found cs)) (found : List Datum) (cs : List Char) :
    Within Prod.snd cs (items (fuel + 1) found cs) := by
  unfold items
  have hitem := hvalue cs
  dsimp only
  split
  · rename_i e he
    exact hitem.grounded he
  · rename_i d rest he
    have hfiller := (within_skipFiller (rest.length + 1) rest).mono (hitem.suffix he)
    split
    · rename_i e he
      exact hfiller.grounded he
    · rename_i after he
      exact (List.suffix_cons _ after).trans (hfiller.suffix he)
    · rename_i after he
      have hnext := (within_skipFiller (after.length + 1) after).mono
        ((List.suffix_cons _ after).trans (hfiller.suffix he))
      split
      · rename_i e he
        exact hnext.grounded he
      · rename_i last he
        exact (List.suffix_cons _ last).trans (hnext.suffix he)
      · rename_i body hne he
        exact (hitems _ body).mono (hnext.suffix he)
    · exact within_refuse _ _

theorem within_inline_succ (hpair : ∀ cs, Within Prod.snd cs (pair fuel cs))
    (hinline : ∀ marks ms cs, Within Prod.snd cs (inline fuel marks ms cs)) (marks : List Mark)
    (ms : Members) (cs : List Char) : Within Prod.snd cs (inline (fuel + 1) marks ms cs) := by
  unfold inline
  have hmember := hpair cs
  split
  · rename_i e he
    exact hmember.grounded he
  · rename_i k d rest he
    have hadd := within_addInline marks ms k d rest cs
    split
    · rename_i e he
      exact hadd.grounded he
    · have hblanks := (skipBlanks_suffix rest).trans (hmember.suffix he)
      split
      · rename_i after he
        exact (List.suffix_cons _ after).trans (he ▸ hblanks)
      · rename_i after he
        exact (hinline _ _ _).mono ((skipBlanks_suffix after).trans ((List.suffix_cons _ after).trans (he ▸ hblanks)))
      · exact within_refuse _ _

theorem within_pair_succ (hvalue : ∀ cs, Within Prod.snd cs (value fuel cs)) (cs : List Char) :
    Within Prod.snd cs (pair (fuel + 1) cs) := by
  unfold pair
  have hname := within_key cs
  split
  · rename_i e he
    exact hname.grounded he
  · rename_i k rest he
    have hrest : skipBlanks rest <:+ cs :=
      (skipBlanks_suffix rest).trans ((List.suffix_cons _ rest).trans (hname.suffix he))
    exact ((hvalue _).mono hrest).map fun _ => List.suffix_refl _
  · exact within_refuse _ _

end

/-- **What values find stays within their text**, and so it does for the items and members in them -/
theorem within_value (fuel : Nat) : (∀ cs, Within Prod.snd cs (value fuel cs)) ∧
    (∀ found cs, Within Prod.snd cs (items fuel found cs)) ∧
    (∀ marks ms cs, Within Prod.snd cs (inline fuel marks ms cs)) ∧ ∀ cs, Within Prod.snd cs (pair fuel cs) := by
  induction fuel with
  | zero =>
    exact ⟨fun _ => within_refuse _ _, fun _ _ => within_refuse _ _, fun _ _ _ => within_refuse _ _,
      fun _ => within_refuse _ _⟩
  | succ fuel ih =>
    obtain ⟨hvalue, hitems, hinline, hpair⟩ := ih
    exact ⟨within_value_succ hitems hinline, within_items_succ hvalue hitems, within_inline_succ hpair hinline,
      within_pair_succ hvalue⟩

/-! ## Documents -/

theorem within_declareTable (d : Draft) (cs : List Char) : Within Prod.snd cs (d.declareTable cs) := by
  unfold Draft.declareTable
  refine ((within_key _).mono (skipBlanks_suffix cs)).bind fun found hrest => ?_
  obtain ⟨k, rest⟩ := found
  dsimp only
  split
  · exact within_refuse _ _
  · split
    · exact within_refuse _ _
    · split
      · exact (List.suffix_cons _ _).trans hrest
      · exact within_refuse _ _

theorem within_declareItem (d : Draft) (cs : List Char) : Within Prod.snd cs (d.declareItem cs) := by
  unfold Draft.declareItem
  refine ((within_key _).mono (skipBlanks_suffix cs)).bind fun found hrest => ?_
  obtain ⟨k, rest⟩ := found
  dsimp only
  split
  · exact within_refuse _ _
  · split
    · exact within_refuse _ _
    · split
      · exact (List.suffix_append [']', ']'] _).trans hrest
      · exact within_refuse _ _

theorem within_set (d : Draft) (k : Key) (v : Datum) (rest cs : List Char) :
    Within (fun _ => []) cs (d.set k v rest) := by
  unfold Draft.set
  dsimp only
  split
  · exact within_refuse _ _
  · split
    · exact within_refuse _ _
    · split
      · exact within_refuse _ _
      · split
        · exact within_refuse _ _
        · split
          · exact within_refuse _ _
          · exact List.nil_suffix

theorem within_statement (d : Draft) (cs : List Char) : Within Prod.snd cs (d.statement cs) := by
  unfold Draft.statement
  split
  · exact List.nil_suffix
  · rename_i c rest
    have hrest : rest <:+ c :: rest := List.suffix_cons c rest
    split
    · refine ((within_value _).2.2.2 (c :: rest)).bind fun found hafter => ?_
      refine (within_set d found.1.1 found.1.2 found.2 (c :: rest)).bind fun d _ => ?_
      exact (skipBlanks_suffix _).trans hafter
    · split
      · split
        · rename_i more
          have hmore : more <:+ c :: '[' :: more := List.suffix_append [c, '['] more
          exact ((within_declareItem _ more).mono hmore).map fun _ => skipBlanks_suffix _
        · exact ((within_declareTable _ rest).mono hrest).map fun _ => skipBlanks_suffix _
      · split
        · exact List.suffix_refl _
        · exact within_refuse _ _

theorem within_statements (fuel : Nat) (d : Draft) (cs : List Char) : Within (fun _ => []) cs (d.statements fuel cs) := by
  induction fuel generalizing d cs with
  | zero => exact List.nil_suffix
  | succ fuel ih =>
    unfold Draft.statements
    have hblanks := skipBlanks_suffix cs
    split
    · exact List.nil_suffix
    · rename_i rest he
      exact (ih d rest).mono ((List.suffix_cons _ rest).trans (he ▸ hblanks))
    · have hstatement := (within_statement d (skipBlanks cs)).mono hblanks
      split
      · rename_i e he
        exact hstatement.grounded he
      · rename_i d' rest he
        have hcomment := (within_skipComment rest).mono (hstatement.suffix he)
        split
        · rename_i e he
          exact hcomment.grounded he
        · exact List.nil_suffix
        · rename_i after he
          exact (ih d' after).mono ((List.suffix_cons _ after).trans (hcomment.suffix he))
        · exact within_refuse _ _

/-- **A document is refused for a number only if it holds a run of digits that is too long**, and by its grammar never for how
deep it is nested -/
theorem grounded_of_grammar {e : Refusal} (h : grammar cs = .error e) : e.Grounded cs := by
  have hstatements := within_statements (cs.length + 1) Draft.empty cs
  unfold grammar at h
  cases hd : Draft.empty.statements (cs.length + 1) cs with
  | ok d =>
    rw [hd] at h
    cases h
  | error refusal =>
    rw [hd] at h
    cases h
    exact hstatements.grounded hd

section

variable [Interpreter]

/-- a document is too deep for its reader when the stack is too small for it -/
theorem read_eq_tooDeep_iff {m : String} : read cs = .error (.tooDeep m) ↔ Interpreter.overrun? .document cs = some m := by
  unfold read
  cases Interpreter.overrun? .document cs with
  | some m' => simp
  | none => exact iff_of_false (fun h => grounded_of_grammar h) nofun

theorem holdsRun_of_read {e : Number.TooLong} (h : read cs = .error (.tooLong e)) : HoldsRun cs e := by
  unfold read at h
  split at h
  · cases h
  · exact grounded_of_grammar h

end

/-! ## Ends of lines -/

variable {run : List Char}

theorem IsRun.not_mem_lineFeed (h : IsRun run) : '\n' ∉ run := by
  intro hmem
  rcases h '\n' hmem with hdigit | hunderscore
  · revert hdigit
    decide
  · revert hunderscore
    decide

theorem prefix_of_plainLines (hrun : IsRun run) (h : run <+: plainLines cs) : run <+: cs := by
  fun_induction plainLines cs generalizing run with
  | case1 cs ih =>
    cases run with
    | nil => exact List.nil_prefix
    | cons c run =>
      obtain ⟨rfl, -⟩ := List.cons_prefix_cons.1 h
      exact absurd List.mem_cons_self hrun.not_mem_lineFeed
  | case2 c cs hne ih =>
    cases run with
    | nil => exact List.nil_prefix
    | cons d run =>
      obtain ⟨rfl, hrest⟩ := List.cons_prefix_cons.1 h
      exact List.cons_prefix_cons.2 ⟨rfl, ih (fun x hx => hrun x (List.mem_cons_of_mem d hx)) hrest⟩
  | case3 => exact h

theorem suffix_of_plainLines (h : rest <:+ plainLines cs) : ∃ before, before <:+ cs ∧ rest = plainLines before := by
  induction cs using plainLines.induct with
  | case1 cs ih =>
    rw [plainLines] at h
    rcases List.suffix_cons_iff.1 h with rfl | h
    · exact ⟨'\r' :: '\n' :: cs, List.suffix_refl _, by rw [plainLines]⟩
    · obtain ⟨before, hbefore, rfl⟩ := ih h
      exact ⟨before, hbefore.trans (List.suffix_append ['\r', '\n'] cs), rfl⟩
  | case2 c cs hne ih =>
    rw [plainLines.eq_2 c cs hne] at h
    rcases List.suffix_cons_iff.1 h with rfl | h
    · exact ⟨c :: cs, List.suffix_refl _, (plainLines.eq_2 c cs hne).symm⟩
    · obtain ⟨before, hbefore, rfl⟩ := ih h
      exact ⟨before, hbefore.trans (List.suffix_cons c cs), rfl⟩
  | case3 => exact ⟨[], List.suffix_refl _, List.suffix_nil.1 h⟩

/-- a run is on one line, so it does not matter how lines end -/
theorem infix_of_plainLines (hrun : IsRun run) (h : run <:+: plainLines cs) : run <:+: cs := by
  obtain ⟨rest, hprefix, hsuffix⟩ := List.infix_iff_prefix_suffix.1 h
  obtain ⟨before, hbefore, rfl⟩ := suffix_of_plainLines hsuffix
  exact (prefix_of_plainLines hrun hprefix).isInfix.trans hbefore.isInfix

/-- **A text is refused as a document for a number only if it holds a run of digits that is too long** -/
theorem holdsRun_of_read_plainLines [Interpreter] {e : Number.TooLong} (h : read (plainLines cs) = .error (.tooLong e)) :
    HoldsRun cs e := by
  obtain ⟨run, hpart, hrun, hlong⟩ := holdsRun_of_read h
  exact ⟨run, infix_of_plainLines hrun hpart, hrun, hlong⟩

end ChangeLint.Toml
