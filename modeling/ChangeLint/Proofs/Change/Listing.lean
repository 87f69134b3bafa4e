/-
Name-status listings read back.

A `Row` is one entry of a listing as version control writes it: a status and its paths. `wire` is the text of rows, each
field ended by a NUL. The way back has three stages, each the inverse of the one before:
- `listings_fields`: the fields are grouped into rows by the width of their status;
- `recordsOf_record`: the framed records come apart again, because a record ends with a hash sign and holds the delimiter
  only if a path does;
- `toOption_readRecord`: the last pair of hash signs and the percent sign before it are the ones that framing wrote. Of a
  rename nothing is read unless its paths are `Parted`: they stand in one field of the record, joined by a tab.

Results:
- `resolve_frame_wire`: the changes of a framed listing are those of its rows, every path verbatim;
- `long_score_of_full_similarity`: a score of 100 written with more digits than can be read counts as a change of the
  content.
-/
import Mathlib
import ChangeLint.Change.Status
import ChangeLint.Proofs.Framing
import ChangeLint.Proofs.Number.Digit
import ChangeLint.Proofs.Text.Blank

namespace ChangeLint.Status

open ChangeLint.Text

/-! ## Rows -/

/-- one entry of a listing -/
inductive Row
  | added (path : List Char)
  | deleted (path : List Char)
  | modified (path : List Char)
  | other (status path : List Char)
  | renamed (score old new : List Char)
  | copied (score old new : List Char)
deriving DecidableEq, Repr

namespace Row

def status : Row → List Char
  | .added _ => ['A']
  | .deleted _ => ['D']
  | .modified _ => ['M']
  | .other s _ => s
  | .renamed score _ _ => 'R' :: score
  | .copied score _ _ => 'C' :: score

def paths : Row → List (List Char)
  | .added p => [p]
  | .deleted p => [p]
  | .modified p => [p]
  | .other _ p => [p]
  | .renamed _ old new => [old, new]
  | .copied _ old new => [old, new]

def fields (r : Row) : List (List Char) := r.status :: r.paths

def listing (r : Row) : Listing := ⟨r.status, r.paths⟩

/-- the framed record of a row, without its delimiter -/
def record (r : Row) : List Char := '%' :: (['\t'].intercalate r.paths ++ ("% #".toList ++ (r.status ++ ['#'])))

end Row

/-- rows as one text, every field ended by a NUL -/
def wire (rows : List Row) : List Char := (rows.flatMap Row.fields).flatMap fun f => f ++ ['\x00']

/-- a path that version control can list, without the delimiter in it -/
structure IsPath (p : List Char) : Prop where
  nonempty : p ≠ []
  no_nul : '\x00' ∉ p
  no_delimiter : ¬ Framing.delimiter <:+: p

/-- a status of letters and digits that has one path and is not one of the known ones -/
structure IsOther (s : List Char) : Prop where
  nonempty : s ≠ []
  alphanum : ∀ c ∈ s, c.isAlphanum = true
  single : s.head? ≠ some 'R' ∧ s.head? ≠ some 'C'
  unknown : s ≠ ['A'] ∧ s ≠ ['D'] ∧ s ≠ ['M']

/-- a similarity score: decimal digits -/
def IsScore (score : List Char) : Prop := ∀ c ∈ score, isDigit c = true

/-- rows whose paths can be listed; the paths of a rename hold no tab -/
def Row.WellFormed : Row → Prop
  | .added p => IsPath p
  | .deleted p => IsPath p
  | .modified p => IsPath p
  | .other s p => IsOther s ∧ IsPath p
  | .renamed score old new => IsScore score ∧ IsPath old ∧ IsPath new ∧ '\t' ∉ old ∧ '\t' ∉ new
  | .copied score old new => IsScore score ∧ IsPath old ∧ IsPath new

instance (p : List Char) : Decidable (IsPath p) :=
  decidable_of_iff (p ≠ [] ∧ '\x00' ∉ p ∧ ¬ Framing.delimiter <:+: p)
    ⟨fun ⟨h1, h2, h3⟩ => ⟨h1, h2, h3⟩, fun ⟨h1, h2, h3⟩ => ⟨h1, h2, h3⟩⟩

instance (s : List Char) : Decidable (IsOther s) :=
  decidable_of_iff (s ≠ [] ∧ s.all Char.isAlphanum = true ∧ (s.head? ≠ some 'R' ∧ s.head? ≠ some 'C') ∧
      s ≠ ['A'] ∧ s ≠ ['D'] ∧ s ≠ ['M'])
    ⟨fun ⟨h1, h2, h3, h4⟩ => ⟨h1, List.all_eq_true.1 h2, h3, h4⟩,
      fun ⟨h1, h2, h3, h4⟩ => ⟨h1, List.all_eq_true.2 h2, h3, h4⟩⟩

instance (score : List Char) : Decidable (IsScore score) :=
  List.decidableBAll (fun c => isDigit c = true) score

instance : (r : Row) → Decidable r.WellFormed
  | .added p => inferInstanceAs (Decidable (IsPath p))
  | .deleted p => inferInstanceAs (Decidable (IsPath p))
  | .modified p => inferInstanceAs (Decidable (IsPath p))
  | .other s p => inferInstanceAs (Decidable (IsOther s ∧ IsPath p))
  | .renamed score old new =>
    inferInstanceAs (Decidable (IsScore score ∧ IsPath old ∧ IsPath new ∧ '\t' ∉ old ∧ '\t' ∉ new))
  | .copied score old new => inferInstanceAs (Decidable (IsScore score ∧ IsPath old ∧ IsPath new))

/-- rows with a status as it is written, whatever the paths behind it are -/
def Row.Marked : Row → Prop
  | .other s _ => IsOther s
  | .renamed score _ _ => IsScore score
  | .copied score _ _ => IsScore score
  | _ => True

instance : (r : Row) → Decidable r.Marked
  | .other s _ => inferInstanceAs (Decidable (IsOther s))
  | .renamed score _ _ | .copied score _ _ => inferInstanceAs (Decidable (IsScore score))
  | .added _ | .deleted _ | .modified _ => inferInstanceAs (Decidable True)

/-- rows whose paths can be told apart in their record: those of a rename, which stand in one field there -/
def Row.Parted : Row → Prop
  | .renamed _ old new => (old ≠ [] ∧ new ≠ []) ∧ '\t' ∉ old ∧ '\t' ∉ new
  | _ => True

instance : (r : Row) → Decidable r.Parted
  | .renamed _ old new => inferInstanceAs (Decidable ((old ≠ [] ∧ new ≠ []) ∧ '\t' ∉ old ∧ '\t' ∉ new))
  | .added _ | .deleted _ | .modified _ | .other _ _ | .copied _ _ _ => inferInstanceAs (Decidable True)

/-- the content has changed unless the score is 100, written with no more digits than can be read -/
def contentModified (score : List Char) : Bool :=
  !decide (score.length ≤ Number.digitLimit ∧ ofDigits score = 100)

/-- the change that a row tells -/
def Row.change? : Row → Option FileChange
  | .added p => some (.added (String.ofList p))
  | .deleted p => some (.deleted (String.ofList p))
  | .modified p => some (.modified (String.ofList p))
  | .other _ _ => none
  | .renamed score old new =>
    some (.renamed (String.ofList old) (String.ofList new) (contentModified score))
  | .copied _ _ _ => none

/-- the change that is read of the record of a row -/
def Row.told? (r : Row) : Option FileChange := if r.Parted then r.change? else none

/-! ## Fields -/

/-- characters of a status: no blank, no hash sign, no at sign, no NUL -/
structure IsMark (c : Char) : Prop where
  not_blank : isBlank c = false
  not_hash : c ≠ '#'
  not_at : c ≠ '@'
  not_nul : c ≠ '\x00'

theorem isMark_of_isDigit {c : Char} (h : isDigit c = true) : IsMark c :=
  ⟨isBlank_eq_false_of_isDigit h, ne_of_isDigit h (by decide), ne_of_isDigit h (by decide),
    ne_of_isDigit h (by decide)⟩

theorem isMark_of_isAlphanum {c : Char} (h : c.isAlphanum = true) : IsMark c := by
  have hne : ∀ d : Char, d.isAlphanum = false → c ≠ d := by
    rintro d hd rfl
    rw [h] at hd
    exact absurd hd (by decide)
  refine ⟨isBlank_eq_false_of_visible ?_, hne _ (by decide), hne _ (by decide), hne _ (by decide)⟩
  simp only [Char.isAlphanum, Char.isAlpha, Char.isUpper, Char.isLower, Char.isDigit, Bool.or_eq_true,
    Bool.and_eq_true, decide_eq_true_eq, UInt32.le_iff_toNat_le, ge_iff_le] at h
  change ((65 ≤ c.toNat ∧ c.toNat ≤ 90) ∨ (97 ≤ c.toNat ∧ c.toNat ≤ 122)) ∨ (48 ≤ c.toNat ∧ c.toNat ≤ 57) at h
  omega

variable {r : Row} {rows : List Row}

theorem Row.WellFormed.marked (h : r.WellFormed) : r.Marked := by
  cases r with
  | other s p => exact h.1
  | renamed score old new => exact h.1
  | copied score old new => exact h.1
  | _ => exact trivial

theorem Row.WellFormed.parted (h : r.WellFormed) : r.Parted := by
  cases r with
  | renamed score old new =>
    obtain ⟨-, hold, hnew, hold_tab, hnew_tab⟩ := h
    exact ⟨⟨hold.nonempty, hnew.nonempty⟩, hold_tab, hnew_tab⟩
  | _ => exact trivial

theorem told?_of_parted (h : r.Parted) : r.told? = r.change? := if_pos h

theorem told?_of_not_parted (h : ¬ r.Parted) : r.told? = none := if_neg h

theorem isMark_of_mem_status (h : r.Marked) : ∀ c ∈ r.status, IsMark c := by
  have hcons : ∀ {d : Char} {score : List Char}, IsMark d → IsScore score → ∀ c ∈ d :: score, IsMark c := by
    intro d score hd hscore c hc
    rcases List.mem_cons.1 hc with rfl | hc
    · exact hd
    · exact isMark_of_isDigit (hscore c hc)
  have hletter : ∀ {d : Char}, d.isAlphanum = true → ∀ c ∈ [d], IsMark c := by
    intro d hd c hc
    rw [List.mem_singleton] at hc
    exact hc ▸ isMark_of_isAlphanum hd
  cases r with
  | added p => exact hletter (by decide)
  | deleted p => exact hletter (by decide)
  | modified p => exact hletter (by decide)
  | other s p => exact fun c hc => isMark_of_isAlphanum (h.alphanum c hc)
  | renamed score old new => exact hcons (isMark_of_isAlphanum (by decide)) h
  | copied score old new => exact hcons (isMark_of_isAlphanum (by decide)) h

theorem status_ne_nil (h : r.Marked) : r.status ≠ [] := by
  cases r with
  | other s p => exact h.nonempty
  | _ => exact List.cons_ne_nil _ _

theorem isPath_of_mem_paths (h : r.WellFormed) : ∀ p ∈ r.paths, IsPath p := by
  have hone : ∀ {q : List Char}, IsPath q → ∀ p ∈ [q], IsPath p := by
    intro q hq p hp
    rw [List.mem_singleton] at hp
    exact hp ▸ hq
  have hpair : ∀ {old new : List Char}, IsPath old → IsPath new → ∀ p ∈ [old, new], IsPath p := by
    intro old new hold hnew p hp
    rcases List.mem_cons.1 hp with rfl | hp
    · exact hold
    · exact hone hnew p hp
  cases r with
  | added p => exact hone h
  | deleted p => exact hone h
  | modified p => exact hone h
  | other s p => exact hone h.2
  | renamed score old new => exact hpair h.2.1 h.2.2.1
  | copied score old new => exact hpair h.2.1 h.2.2

/-- the status tells how many paths follow it -/
theorem width_status (h : r.Marked) : width r.status = r.paths.length := by
  cases r with
  | other s p =>
    obtain ⟨hR, hC⟩ := h.single
    simp only [Row.status, Row.paths, width, List.length_singleton]
    split
    · exact absurd rfl hR
    · exact absurd rfl hC
    · rfl
  | _ => rfl

theorem trim_status (h : r.Marked) : trim isBlank r.status = r.status :=
  trim_eq_self fun c hc => (isMark_of_mem_status h c hc).not_blank

/-- no field of a row holds a NUL -/
theorem no_nul_of_mem_fields (h : r.Marked) (hpaths : ∀ p ∈ r.paths, '\x00' ∉ p) : ∀ f ∈ r.fields, '\x00' ∉ f := by
  intro f hf hnul
  rcases List.mem_cons.1 hf with rfl | hf
  · exact (isMark_of_mem_status h _ hnul).not_nul rfl
  · exact hpaths f hf hnul

theorem no_nul_of_mem_flatMap (h : ∀ r ∈ rows, r.Marked) (hnul : ∀ r ∈ rows, ∀ p ∈ r.paths, '\x00' ∉ p) :
    ∀ f ∈ rows.flatMap Row.fields, '\x00' ∉ f := by
  intro f hf
  obtain ⟨r, hr, hf⟩ := List.mem_flatMap.1 hf
  exact no_nul_of_mem_fields (h r hr) (hnul r hr) f hf

/-- the fields of a row are its listing, whatever fields follow -/
theorem listings_fields_append (h : r.Marked) (fields : List (List Char)) :
    listings (r.fields ++ fields) = (r.listing :: (listings fields).1, (listings fields).2) := by
  rw [Row.fields, List.cons_append, listings]
  simp only [trim_status h, List.isEmpty_iff, status_ne_nil h, ite_false, width_status h, List.take_left,
    List.drop_left, ite_true]
  rfl

/-- behind the last NUL stands an empty field, which is no status -/
theorem listings_nil : listings [[]] = ([], none) := by simp [listings, trim, trimEnd]

/-- the fields of rows are their listings, whatever fields follow -/
theorem listings_flatMap_append (h : ∀ r ∈ rows, r.Marked) (fields : List (List Char)) :
    listings (rows.flatMap Row.fields ++ fields) = (rows.map Row.listing ++ (listings fields).1, (listings fields).2) := by
  induction rows with
  | nil => rfl
  | cons r rows ih =>
    have ihs := ih fun s hs => h s (List.mem_cons_of_mem r hs)
    rw [List.flatMap_cons, List.append_assoc, listings_fields_append (h r List.mem_cons_self), ihs]
    rfl

/-- **The fields are grouped into rows again** -/
theorem listings_fields (h : ∀ r ∈ rows, r.Marked) :
    listings (rows.flatMap Row.fields ++ [[]]) = (rows.map Row.listing, none) := by
  rw [listings_flatMap_append h, listings_nil, List.append_nil]

/-! ## Records -/

theorem record_eq (r : Row) :
    r.record = '%' :: (['\t'].intercalate r.paths ++ '%' :: (' ' :: '#' :: r.status)) ++ ['#'] := by
  simp [Row.record]

theorem not_infix_intercalate {ps : List (List Char)} (h : ∀ p ∈ ps, ¬ Framing.delimiter <:+: p) :
    ¬ Framing.delimiter <:+: ['\t'].intercalate ps := by
  induction ps with
  | nil => decide
  | cons p ps ih =>
    have hp := h p List.mem_cons_self
    cases ps with
    | nil => rwa [List.intercalate_singleton]
    | cons q qs =>
      rw [List.intercalate_cons_cons, List.append_assoc, List.singleton_append, infix_append_cons (by decide), not_or]
      exact ⟨hp, ih fun x hx => h x (List.mem_cons_of_mem p hx)⟩

/-- no record holds the delimiter, nor a part of it at its end -/
theorem safe_record (h : r.Marked) (hpaths : ∀ p ∈ r.paths, ¬ Framing.delimiter <:+: p) : Framing.Safe r.record := by
  have hstatus : '@' ∉ ' ' :: '#' :: r.status := by
    simp only [List.mem_cons, not_or]
    exact ⟨by decide, by decide, fun hc => (isMark_of_mem_status h _ hc).not_at rfl⟩
  rw [record_eq]
  refine Framing.safe_concat ?_ (by decide)
  rw [← List.nil_append ('%' :: _), infix_append_cons (by decide), infix_append_cons (by decide), not_or, not_or]
  exact ⟨by decide, not_infix_intercalate hpaths, Framing.not_infix_of_not_mem hstatus⟩

theorem dropBreak_record (r : Row) : Framing.dropBreak r.record = r.record := rfl

/-- framing reads the fields, each ended by a NUL -/
theorem toList_frame {fs : List (List Char)} (h : ∀ f ∈ fs, '\x00' ∉ f) :
    (frame (String.ofList (fs.flatMap fun f => f ++ ['\x00']))).toList =
      (listings (fs ++ [[]])).1.flatMap Listing.frame := by
  rw [frame, String.toList_ofList, String.toList_ofList, pieces_eq_splitOn, splitOn_flatMap h]

theorem flatMap_frame (rows : List Row) :
    (rows.map Row.listing).flatMap Listing.frame = Framing.framed (rows.map Row.record) := by
  rw [List.flatMap_map, Framing.framed, List.flatMap_map]
  refine List.flatMap_congr fun r _ => ?_
  simp [Listing.frame, Row.listing, Row.record]

/-- the framed text of a listing is the framed records of its rows -/
theorem toList_frame_wire (h : ∀ r ∈ rows, r.Marked) (hnul : ∀ r ∈ rows, ∀ p ∈ r.paths, '\x00' ∉ p) :
    (frame (String.ofList (wire rows))).toList = Framing.framed (rows.map Row.record) := by
  rw [wire, toList_frame (no_nul_of_mem_flatMap h hnul), listings_fields h, flatMap_frame]

/-- **The records of rows come apart again**, none lost and none cut -/
theorem recordsOf_record (h : ∀ r ∈ rows, r.Marked) (hpaths : ∀ r ∈ rows, ∀ p ∈ r.paths, ¬ Framing.delimiter <:+: p) :
    Framing.recordsOf (Framing.framed (rows.map Row.record)) = rows.map Row.record := by
  rw [Framing.recordsOf_framed, List.filter_eq_self]
  · intro l hl
    obtain ⟨r, -, rfl⟩ := List.mem_map.1 hl
    rfl
  · intro l hl
    obtain ⟨r, hr, rfl⟩ := List.mem_map.1 hl
    exact safe_record (h r hr) (hpaths r hr)
  · intro l hl
    obtain ⟨r, -, rfl⟩ := List.mem_map.1 hl
    exact dropBreak_record r

/-- **Path field and status are found again**, whatever the path field holds -/
theorem fields?_eq {path status : List Char} (h : ∀ c ∈ status, IsMark c) :
    fields? ('%' :: (path ++ '%' :: (' ' :: '#' :: status)) ++ ['#']) = some ⟨path, status⟩ := by
  have hhash : '#' ∉ status := fun hc => (h _ hc).not_hash rfl
  have hbody : '%' :: (path ++ '%' :: (' ' :: '#' :: status)) = ('%' :: path ++ ['%']) ++ [' '] ++ '#' :: status := by
    simp
  have hfield : trimEnd isBlank (('%' :: path ++ ['%']) ++ [' ']) = '%' :: path ++ ['%'] := by
    rw [trimEnd_eq_rdropWhile, List.rdropWhile_concat_pos _ _ _ (by decide)]
    exact trimEnd_concat (by decide) _
  have htrim : trim isBlank status = status := trim_eq_self fun c hc => (h c hc).not_blank
  rw [fields?, trimEnd_concat (by decide), splitLast?_singleton List.not_mem_nil]
  simp only [hbody, splitLast?_singleton hhash, hfield, splitLast?_singleton List.not_mem_nil, htrim]
  rfl

/-! ## Changes -/

/-- a score is read as full similarity when it is 100 in a readable number of digits -/
theorem not_isSame_eq {score : List Char} (h : IsScore score) : (!isSame score) = contentModified score := by
  by_cases hne : score = []
  · subst hne
    decide
  · rw [isSame, Number.readInt_digits h hne, Number.ofDigits, contentModified]
    by_cases hlen : Number.digitLimit < score.length
    · simp [if_pos hlen, not_le.2 hlen]
    · have hcast : ((ofDigits score : Int) = 100) ↔ ofDigits score = 100 := by omega
      simp [if_neg hlen, not_lt.1 hlen, hcast]

theorem fields?_record (h : r.Marked) : fields? r.record = some ⟨['\t'].intercalate r.paths, r.status⟩ := by
  rw [record_eq]
  exact fields?_eq (isMark_of_mem_status h)

/-- two paths that are joined by a tab come apart as two if they hold no other -/
theorem pieces_join {old new a b : List Char} (h : pieces '\t' (old ++ '\t' :: new) = [a, b]) :
    '\t' ∉ old ∧ '\t' ∉ new := by
  rw [pieces_eq_splitOn, List.splitOn_append_cons_self] at h
  have hsingle : ∀ {path p : List Char}, path.splitOn '\t' = [p] → '\t' ∉ path := by
    intro path p hp
    have hpath : ['\t'].intercalate (path.splitOn '\t') = path := List.intercalate_splitOn '\t'
    rw [hp, List.intercalate_singleton] at hpath
    exact hpath ▸ not_mem_of_mem_splitOn (hp ▸ List.mem_singleton_self p)
  obtain ⟨p, ps, hps⟩ := List.exists_cons_of_ne_nil (List.splitOn_ne_nil '\t' old)
  obtain ⟨q, qs, hqs⟩ := List.exists_cons_of_ne_nil (List.splitOn_ne_nil '\t' new)
  have hlength := congrArg List.length h
  simp only [hps, hqs, List.length_append, List.length_cons, List.length_nil] at hlength
  have hps' : ps = [] := List.length_eq_zero_iff.1 (by omega)
  have hqs' : qs = [] := List.length_eq_zero_iff.1 (by omega)
  exact ⟨hsingle (hps' ▸ hps), hsingle (hqs' ▸ hqs)⟩

/-- **A record tells the change of its row**, and nothing if the row tells none or its paths cannot be told apart -/
theorem toOption_readRecord (h : r.Marked) : (readRecord (String.ofList r.record)).toOption = r.told? := by
  rw [readRecord, String.toList_ofList, fields?_record h]
  cases r with
  | other s p =>
    obtain ⟨hA, hD, hM⟩ := h.unknown
    obtain ⟨hR, -⟩ := h.single
    rw [told?_of_parted (r := .other s p) trivial]
    simp only [Row.status, Row.paths, Row.change?]
    split
    · exact absurd rfl hA
    · exact absurd rfl hD
    · exact absurd rfl hM
    · exact absurd rfl hR
    · rfl
  | renamed score old new =>
    simp only [Row.status, Row.paths, List.intercalate_cons_cons, List.intercalate_singleton, List.append_assoc,
      List.singleton_append]
    by_cases htab : '\t' ∉ old ∧ '\t' ∉ new
    · have hpieces : pieces '\t' (old ++ '\t' :: new) = [old, new] := by
        rw [pieces_eq_splitOn, List.splitOn_append_cons_self_of_not_mem htab.1, List.splitOn_eq_singleton htab.2]
      rw [hpieces]
      by_cases hempty : old ≠ [] ∧ new ≠ []
      · rw [told?_of_parted (r := .renamed score old new) ⟨hempty, htab⟩]
        simp [hempty, Row.change?, not_isSame_eq h, Except.toOption]
      · have hor : old = [] ∨ new = [] := by rwa [ne_eq, ne_eq, ← not_or, not_not] at hempty
        rw [told?_of_not_parted (r := .renamed score old new) fun hparted => hempty hparted.1]
        simp [hor, Except.toOption]
    · rw [told?_of_not_parted (r := .renamed score old new) fun hparted => htab hparted.2]
      split
      · rename_i hpieces
        exact absurd (pieces_join hpieces) htab
      · rfl
  | _ => simp [Row.status, Row.paths, Row.told?, Row.Parted, Row.change?, Except.toOption]

/-- the changes of framed records of rows, in their order -/
theorem changes_of_framed {framed : String} (hframed : framed.toList = Framing.framed (rows.map Row.record))
    (h : ∀ r ∈ rows, r.Marked) (hpaths : ∀ r ∈ rows, ∀ p ∈ r.paths, ¬ Framing.delimiter <:+: p) :
    changes framed = rows.filterMap Row.told? := by
  rw [changes, Framing.records, hframed, recordsOf_record h hpaths, List.map_map, List.filterMap_map]
  refine List.filterMap_congr fun r hr => ?_
  rw [Function.comp_apply, Function.comp_apply, toOption_readRecord (h r hr)]

/-- the changes of a framed listing, in the order of its rows -/
theorem changes_frame_wire (h : ∀ r ∈ rows, r.WellFormed) :
    changes (frame (String.ofList (wire rows))) = rows.filterMap Row.change? := by
  have hmarked : ∀ r ∈ rows, r.Marked := fun r hr => (h r hr).marked
  have hframed := toList_frame_wire hmarked fun r hr p hp => (isPath_of_mem_paths (h r hr) p hp).no_nul
  rw [changes_of_framed hframed hmarked fun r hr p hp => (isPath_of_mem_paths (h r hr) p hp).no_delimiter]
  exact List.filterMap_congr fun r hr => told?_of_parted (h r hr).parted

/-- **Framed listings are read back.** The changes of a framed listing are exactly those that its rows tell: paths are
verbatim, whatever signs they hold; a rename has new content unless its score is 100 in a readable number of digits;
rows of another status tell nothing. -/
theorem resolve_frame_wire (rows : List Row) (h : ∀ r ∈ rows, r.WellFormed) :
    resolve (frame (String.ofList (wire rows))) = ChangeSet.ofList (rows.filterMap Row.change?) ∧
      ∀ c, c ∈ resolve (frame (String.ofList (wire rows))) ↔ ∃ r ∈ rows, r.change? = some c := by
  have hset : resolve (frame (String.ofList (wire rows))) = ChangeSet.ofList (rows.filterMap Row.change?) := by
    rw [resolve, changes_frame_wire h]
  refine ⟨hset, fun c => ?_⟩
  rw [hset, ChangeSet.mem_ofList, List.mem_filterMap]

/-- paths with all the signs of a record, one of them like the end of a record -/
def awkwardRows : List Row :=
  [.modified "a% #D#".toList, .renamed "087".toList "%x\n".toList " y#".toList, .other ['T'] ['t'],
    .copied "100".toList "u\tv".toList ['w']]

theorem resolve_awkwardRows :
    (∀ r ∈ awkwardRows, r.WellFormed) ∧ resolve (frame (String.ofList (wire awkwardRows))) =
      ChangeSet.ofList [.modified "a% #D#", .renamed "%x\n" " y#" true] :=
  ⟨by decide, (resolve_frame_wire awkwardRows (by decide)).1⟩

/-- a score of 100 in 4301 digits -/
def longScore : List Char := List.replicate 4298 '0' ++ "100".toList

/-- **Full similarity that cannot be read.** A rename with the score 100, in more digits than can be read, counts as one
with new content. -/
theorem long_score_of_full_similarity :
    (Row.renamed longScore ['a'] ['b']).WellFormed ∧ ofDigits longScore = 100 ∧
      .renamed "a" "b" false ∉ resolve (frame (String.ofList (wire [.renamed longScore ['a'] ['b']]))) ∧
      .renamed "a" "b" true ∈ resolve (frame (String.ofList (wire [.renamed longScore ['a'] ['b']]))) := by
  have hdigits : IsScore longScore := by
    intro c hc
    rw [longScore, List.mem_append, List.mem_replicate] at hc
    rcases hc with ⟨-, rfl⟩ | hc
    · decide
    · exact List.all_eq_true.1 (by decide : "100".toList.all isDigit = true) c hc
  have hrow : (Row.renamed longScore ['a'] ['b']).WellFormed :=
    ⟨hdigits, ⟨by decide, by decide, by decide⟩, ⟨by decide, by decide, by decide⟩, by decide, by decide⟩
  have hlength : longScore.length = 4301 := by rw [longScore, List.length_append, List.length_replicate]; rfl
  have hmodified : contentModified longScore = true := by simp [contentModified, hlength, Number.digitLimit]
  have hchanges : changes (frame (String.ofList (wire [.renamed longScore ['a'] ['b']]))) = [.renamed "a" "b" true] := by
    rw [changes_frame_wire fun r hr => List.mem_singleton.1 hr ▸ hrow, ← hmodified]
    rfl
  refine ⟨hrow, ?_, ?_, ?_⟩
  · rw [longScore, ofDigits_replicate_zero]
    decide
  · rw [resolve, hchanges, ChangeSet.mem_ofList]
    decide
  · rw [resolve, hchanges, ChangeSet.mem_ofList]
    decide

end ChangeLint.Status
