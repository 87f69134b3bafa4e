/-
Where findings are, and what they are told apart by.

A line is written out for both, so an integer must not be too long for it, nor the stack too small. What is joined must be
texts, and whole ones, for what is joined has bytes (`exists_joinParts_iff`).

Results:
- `location_eq`: findings that checkers write have a place in one text;
- `exists_identity_iff`: a finding has an identity exactly if its path, its line as it is written and its text are texts.
-/
import ChangeLint.Proofs.Except
import ChangeLint.Proofs.Finding.Record
import ChangeLint.Proofs.Text.Broken

namespace ChangeLint

variable {f : Finding} {d : Datum} {parts : List Datum}

/-! ## Data that are texts -/

theorem eq_text_of_isText (h : d.isText) : d = .text d.plain := by
  cases d with
  | text s => rfl
  | _ => cases h

namespace Datum

theorem isString_of_isText (h : d.isText) : d.isString := by
  rw [eq_text_of_isText h]
  rfl

theorem signs_of_isTextOrInt (h : d.isTextOrInt) : d.signs = Text.signs d.plain.toList := by
  cases d with
  | text s => rfl
  | int n => rfl
  | _ => cases h

/-- what is shown of a datum are its signs, with characters for its halves -/
theorem shown_eq (half : Text.Half → Char) (d : Datum) : d.shown half = Text.shown half d.signs := by
  have hplain : ∀ s : String, s = Text.shown half (Text.signs s.toList) := by
    intro s
    rw [Text.shown, Text.map_shown_signs, String.ofList_toList]
  cases d with
  | broken t => rfl
  | _ => exact hplain _

/-- a text is broken if its signs are not those of characters -/
theorem isText_of_isString (h : d.isString) {cs : List Char} (hcs : d.signs = Text.signs cs) : d.isText := by
  cases d with
  | text s => rfl
  | broken t =>
    have hnone := t.isBroken
    rw [show t.signs = Text.signs cs from hcs, Text.chars?_signs] at hnone
    cases hnone
  | _ => cases h

end Datum

namespace Finding

/-- the path of a finding that has one -/
def path? : Finding → Option Datum
  | .mergeRequest _ _ _ => none
  | .file path _ _ _ => some path
  | .line path _ _ _ _ _ => some path

theorem isText_path (h : f.IsTyped) : ∀ path ∈ f.path?, path.isText := by
  obtain ⟨-, -, -, hplace⟩ := h
  intro path hpath
  cases f with
  | mergeRequest text source severity => cases hpath
  | file path' text source severity =>
    cases hpath
    exact hplace
  | line path' number kind text source severity =>
    cases hpath
    exact hplace.1

/-! ## What is joined -/

theorem misfit?_eq_none_iff : misfit? parts = none ↔ ∀ d ∈ parts, d.isString := by
  rw [misfit?, List.findSome?_eq_none_iff]
  constructor
  · intro h d hd
    obtain ⟨i, hi, rfl⟩ := List.mem_iff_getElem.1 hd
    have hmem : (i, parts[i]) ∈ (List.range parts.length).zip parts :=
      List.mem_iff_getElem.2 ⟨i, by simpa using hi, by simp⟩
    simpa using h _ hmem
  · intro h p hp
    rw [if_pos (h p.2 (List.of_mem_zip hp).2)]

theorem joinParts_of_isText (h : ∀ d ∈ parts, d.isText) :
    joinParts parts = .ok (unitSeparator.intercalate (parts.map Datum.plain)) := by
  have hmisfit : misfit? parts = none := misfit?_eq_none_iff.2 fun d hd => Datum.isString_of_isText (h d hd)
  have hshown : ∀ half : Text.Half → Char, parts.map (Datum.shown half) = parts.map Datum.plain := by
    intro half
    refine List.map_congr_left fun d hd => ?_
    rw [eq_text_of_isText (h d hd)]
    rfl
  simp only [joinParts, hmisfit, hshown]
  exact Failure.settled_of_const fun _ => rfl

/-- the signs of what is joined -/
theorem intercalate_shown (half : Text.Half → Char) (parts : List Datum) :
    unitSeparator.intercalate (parts.map (Datum.shown half)) =
      Text.shown half ((Text.signs unitSeparator.toList).intercalate (parts.map Datum.signs)) := by
  rw [Text.shown, ← String.toList_inj, String.toList_ofList, String.toList_intercalate]
  induction parts with
  | nil => rfl
  | cons d parts ih =>
    cases parts with
    | nil => simp [Datum.shown_eq, Text.shown]
    | cons e parts =>
      simp only [List.map_cons, List.intercalate_cons_cons, List.map_append] at ih ⊢
      rw [ih, Datum.shown_eq half d, Text.shown, String.toList_ofList, Text.map_shown_signs]

theorem mem_intercalate_of_mem {α : Type} {sep l : List α} {ls : List (List α)} (hl : l ∈ ls) {a : α} (ha : a ∈ l) :
    a ∈ sep.intercalate ls := by
  induction ls with
  | nil => cases hl
  | cons k ls ih =>
    cases ls with
    | nil =>
      obtain rfl := List.mem_singleton.1 hl
      simpa using ha
    | cons m ls =>
      rw [List.intercalate_cons_cons]
      rcases List.mem_cons.1 hl with rfl | hl
      · simp [ha]
      · simp [ih hl]

/-- **Parts are joined** exactly if all of them are texts without halves -/
theorem exists_joinParts_iff : (∃ s, joinParts parts = .ok s) ↔ ∀ d ∈ parts, d.isText := by
  refine ⟨?_, fun h => ⟨_, joinParts_of_isText h⟩⟩
  rintro ⟨s, hs⟩ d hd
  unfold joinParts at hs
  split at hs
  · cases hs
  rename_i hmisfit
  simp only [intercalate_shown] at hs
  obtain ⟨cs, hcs⟩ := Failure.exists_settled_shown_iff.1 ⟨s, hs⟩
  -- no half stands in the whole, so none stands in a part of it
  cases hd' : Text.chars? d.signs with
  | some ds => exact Datum.isText_of_isString (misfit?_eq_none_iff.1 hmisfit d hd) (Text.chars?_eq_some_iff.1 hd')
  | none =>
    obtain ⟨x, hx⟩ := Text.exists_half hd'
    have hmem : .half x ∈ (Text.signs unitSeparator.toList).intercalate (parts.map Datum.signs) :=
      mem_intercalate_of_mem (List.mem_map_of_mem hd) hx
    rw [hcs] at hmem
    simp [Text.signs] at hmem

/-! ## Lines, places and identities -/

/-- where a finding is, in one text -/
def locationText : Finding → String
  | .mergeRequest _ _ _ => "merge request"
  | .file path _ _ _ => path.plain
  | .line path number _ _ _ _ => path.plain ++ ":" ++ number.plain

variable [Interpreter]

/-- what is no list and no table, and holds no long integer, is written as it reads -/
theorem written_of_isTextOrInt (h : d.isTextOrInt) (hshort : d.hasLongInt = false) : written d = .ok (.text d.plain) := by
  have hroom : Interpreter.unwritten? .literal d = none :=
    Interpreter.unwritten_shallow (by rw [depth_of_isTextOrInt h]; decide)
  simp [written, hroom, Datum.written, hshort, Datum.signs_of_isTextOrInt h, Except.mapError]

theorem written_of_isText (h : d.isText) : written d = .ok d := by
  rw [eq_text_of_isText h]
  exact written_of_isTextOrInt rfl rfl

theorem IsSendable.number {path number text : Datum} {kind : LineKind} {source : Source} {severity : Severity}
    (h : (Finding.line path number kind text source severity).IsSendable) : written number = .ok (.text number.plain) :=
  written_of_isTextOrInt h.typed.2.2.2.2 (h.short number rfl)

/-- **Findings have a place** that is one text -/
theorem location_eq (h : f.IsSendable) : f.location = .ok (.text f.locationText) := by
  cases f with
  | mergeRequest text source severity => rfl
  | file path text source severity => exact congrArg Except.ok (eq_text_of_isText h.typed.2.2.2)
  | line path number kind text source severity =>
    have hpath := eq_text_of_isText h.typed.2.2.2.1
    have hsigns : Datum.signs (.text path.plain) ++ Text.signs [':'] ++ Datum.signs (.text number.plain) =
        Text.signs (path.plain ++ ":" ++ number.plain).toList := by
      simp [Datum.signs, Datum.plain, Text.signs]
    rw [location, written_of_isText h.typed.2.2.2.1, h.number, hpath]
    simp only [ok_bind, hsigns, Datum.ofSigns_signs, String.ofList_toList]
    rfl

/-- **A finding has an identity** exactly if its path and its text are texts, and its line is one when it is written -/
theorem exists_identity_iff : (∃ id, f.identity = .ok id) ↔
    (∀ path ∈ f.path?, path.isText) ∧ f.text.isText ∧ ∀ number ∈ f.line?, ∃ s, written number = .ok (.text s) := by
  have htexts : (∃ id, f.identity = .ok id) ↔ ∃ parts, f.identityParts = .ok parts ∧ ∀ d ∈ parts, d.isText := by
    rw [identity, exists_map_eq_ok, identityText, exists_bind_eq_ok]
    simp only [exists_joinParts_iff]
  rw [htexts]
  cases f with
  | mergeRequest text source severity => simp [identityParts, path?, line?, Finding.text, Datum.isText]
  | file path text source severity => simp [identityParts, path?, line?, Finding.text, Datum.isText]
  | line path number kind text source severity =>
    simp only [identityParts, path?, line?, Finding.text, Option.mem_some_iff, forall_eq']
    cases hnumber : written number with
    | error e => simp [Except.map]
    | ok n =>
      simp only [Except.map, Except.ok.injEq, exists_eq_left', List.forall_mem_cons, List.not_mem_nil, false_implies,
        implies_true, and_true]
      constructor
      · rintro ⟨-, hpath, hn, htext⟩
        exact ⟨hpath, htext, n.plain, eq_text_of_isText hn⟩
      · rintro ⟨hpath, htext, s, rfl⟩
        exact ⟨rfl, hpath, rfl, htext⟩

theorem exists_identity (h : f.IsSendable) : ∃ id, f.identity = .ok id := by
  refine exists_identity_iff.2 ⟨isText_path h.typed, h.typed.1, fun number hnumber => ?_⟩
  cases f with
  | mergeRequest text source severity => cases hnumber
  | file path text source severity => cases hnumber
  | line path number' kind text source severity =>
    cases hnumber
    exact ⟨_, h.number⟩

end Finding

end ChangeLint
