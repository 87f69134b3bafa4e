/-
What a framed record tells, and what becomes of one that tells nothing.

`Frames` says where a record has its path field and its status, without the scans that find them: the status stands
between the last two hash signs, the path field between the first percent sign and the one before the status. A record
tells a change if its status is a known one (`Tells`), and is refused otherwise, for one of three reasons (`Refused`).

Results:
- `fields?_eq_some_iff`: the scans find the path field and the status if and only if they stand in the record;
- `readRecord_eq_ok_iff`, `readRecord_eq_error_iff`: a record is read as the change that it tells, or refused with the
  reason that it gives;
- `mem_resolve_iff`: a change is resolved if and only if a record tells it, whatever the other records are;
- `mem_skippedLog_iff`, `length_changes_add`: every record that tells nothing is reported, once.
-/
import ChangeLint.Proofs.Change.Listing

namespace ChangeLint.Status

open ChangeLint.Text

/-! ## The form of a record -/

/-- a record with a path field between percent signs and a status between hash signs; only blanks stand between the two
and behind them, and what comes before the first percent sign does not count -/
def Frames (record path status : List Char) : Prop :=
  ∃ front gap mark margin, record = front ++ '%' :: (path ++ '%' :: (gap ++ '#' :: (mark ++ '#' :: margin))) ∧
    '%' ∉ front ∧ (∀ c ∈ gap, isBlank c = true) ∧ '#' ∉ mark ∧ (∀ c ∈ margin, isBlank c = true) ∧
    status = trim isBlank mark

/-- one side of a rename: a path that is not empty, without a tab -/
def IsSide (path : List Char) : Prop := path ≠ [] ∧ '\t' ∉ path

/-- the change that a record tells -/
inductive Tells (record : List Char) : FileChange → Prop
  | added {path : List Char} (h : Frames record path ['A']) : Tells record (.added (String.ofList path))
  | deleted {path : List Char} (h : Frames record path ['D']) : Tells record (.deleted (String.ofList path))
  | modified {path : List Char} (h : Frames record path ['M']) : Tells record (.modified (String.ofList path))
  | renamed {old new score : List Char} (h : Frames record (old ++ '\t' :: new) ('R' :: score)) (hold : IsSide old)
      (hnew : IsSide new) : Tells record (.renamed (String.ofList old) (String.ofList new) (!isSame score))

/-- why a record tells no change -/
inductive Refused (record : String) : Skipped → Prop
  | malformed (h : ∀ path status, ¬ Frames record.toList path status) : Refused record (.malformed record)
  | renameWithoutPair {path score : List Char} (h : Frames record.toList path ('R' :: score))
      (hpair : ∀ old new, IsSide old → IsSide new → path ≠ old ++ '\t' :: new) :
      Refused record (.renameWithoutPair record)
  | unknownStatus {path status : List Char} (h : Frames record.toList path status)
      (hknown : status ∉ [['A'], ['D'], ['M']]) (hrename : status.head? ≠ some 'R') :
      Refused record (.unknownStatus (String.ofList status) (String.ofList path))

variable {c : Char} {cs before after record path status : List Char} {r framed : String} {change : FileChange}
  {skipped : Skipped}

/-! ## The scans -/

theorem splitLast?_eq_some_iff : splitLast? [c] cs = some (before, after) ↔ cs = before ++ c :: after ∧ c ∉ after := by
  constructor
  · intro h
    induction cs generalizing before with
    | nil => cases h
    | cons d cs ih =>
      rw [splitLast?] at h
      cases hrest : splitLast? [c] cs with
      | some parts =>
        rw [hrest] at h
        obtain ⟨rfl, rfl⟩ := Prod.mk.inj (Option.some.inj h)
        obtain ⟨rfl, hafter⟩ := ih hrest
        exact ⟨rfl, hafter⟩
      | none =>
        have hnone : c ∉ cs := fun hmem => by
          obtain ⟨u, v, rfl⟩ := List.append_of_mem hmem
          obtain ⟨middle, last, hsome⟩ := splitLast?_append [c] (List.cons_ne_nil c []) u v
          rw [List.singleton_append, hrest] at hsome
          cases hsome
        rw [hrest] at h
        by_cases hd : c = d
        · subst hd
          simp only [List.isPrefixOf_cons_cons, beq_self_eq_true, List.isPrefixOf_nil_left, Bool.and_self, ite_true,
            Option.some.injEq, Prod.mk.injEq, List.length_singleton, List.drop_succ_cons, List.drop_zero] at h
          obtain ⟨rfl, rfl⟩ := h
          exact ⟨rfl, hnone⟩
        · simp [hd] at h
  · rintro ⟨rfl, h⟩
    exact splitLast?_singleton h before

/-- a character that is no blank ends a text, blanks behind it apart -/
theorem trimEnd_eq_concat_iff (hc : isBlank c = false) :
    trimEnd isBlank cs = before ++ [c] ↔ ∃ margin, cs = before ++ c :: margin ∧ ∀ d ∈ margin, isBlank d = true := by
  constructor
  · intro h
    have hparts : trimEnd isBlank cs ++ (cs.reverse.takeWhile isBlank).reverse = cs := by
      rw [trimEnd, ← List.reverse_append, List.takeWhile_append_dropWhile, List.reverse_reverse]
    rw [h, List.append_assoc] at hparts
    exact ⟨_, hparts.symm, fun d hd => List.mem_takeWhile_imp (List.mem_reverse.1 hd)⟩
  · rintro ⟨margin, rfl, hmargin⟩
    have hnil : trimEnd isBlank margin = [] := by
      rw [trimEnd_eq_rdropWhile, List.rdropWhile_eq_nil_iff]
      exact hmargin
    rw [trimEnd_append_cons hc, hnil]

/-- the closing sign of a field, with nothing but blanks behind it -/
theorem splitLast?_trimEnd_iff (hc : isBlank c = false) :
    splitLast? [c] (trimEnd isBlank cs) = some (before, []) ↔
      ∃ margin, cs = before ++ c :: margin ∧ ∀ d ∈ margin, isBlank d = true := by
  rw [splitLast?_eq_some_iff, trimEnd_eq_concat_iff hc]
  exact and_iff_left List.not_mem_nil

theorem dropWhile_ne_eq_cons_iff :
    cs.dropWhile (· ≠ c) = c :: after ↔ ∃ front, cs = front ++ c :: after ∧ c ∉ front := by
  constructor
  · intro h
    refine ⟨cs.takeWhile (· ≠ c), ?_, fun hmem => ?_⟩
    · rw [← h, List.takeWhile_append_dropWhile]
    · simpa using List.mem_takeWhile_imp hmem
  · rintro ⟨front, rfl, hfront⟩
    have hall : ∀ d ∈ front, decide (d ≠ c) = true := fun d hd => decide_eq_true fun h => hfront (h ▸ hd)
    rw [List.dropWhile_append_of_pos hall, List.dropWhile_cons_of_neg (by simp)]

/-- **Path field and status are found** if and only if they stand in the record -/
theorem fields?_eq_some_iff : fields? record = some ⟨path, status⟩ ↔ Frames record path status := by
  constructor
  · intro h
    unfold fields? at h
    split at h
    case h_2 => cases h
    rename_i body hbody
    split at h
    case h_2 => cases h
    rename_i field mark hmark
    split at h
    case h_2 => cases h
    rename_i inner hinner
    split at h
    case h_2 => cases h
    rename_i d found hfound
    obtain ⟨rfl, rfl⟩ := Fields.mk.inj (Option.some.inj h)
    obtain ⟨margin, rfl, hmargin⟩ := (splitLast?_trimEnd_iff (by decide)).1 hbody
    obtain ⟨rfl, hhash⟩ := splitLast?_eq_some_iff.1 hmark
    obtain ⟨gap, rfl, hgap⟩ := (splitLast?_trimEnd_iff (by decide)).1 hinner
    -- what is left of a text without its first characters other than a percent sign begins with one
    have hd : d = '%' := by
      have hhead := List.head?_dropWhile_not (· ≠ '%') inner
      rw [hfound] at hhead
      simpa using hhead
    subst hd
    obtain ⟨front, rfl, hfront⟩ := dropWhile_ne_eq_cons_iff.1 hfound
    exact ⟨front, gap, mark, margin, by simp, hfront, hgap, hhash, hmargin, rfl⟩
  · rintro ⟨front, gap, mark, margin, rfl, hfront, hgap, hmark, hmargin, rfl⟩
    have hbody : splitLast? ['#'] (trimEnd isBlank (front ++ '%' :: (path ++ '%' :: (gap ++ '#' :: (mark ++ '#' :: margin))))) =
        some (front ++ '%' :: (path ++ '%' :: (gap ++ '#' :: mark)), []) :=
      (splitLast?_trimEnd_iff (by decide)).2 ⟨margin, by simp, hmargin⟩
    have hstatus : splitLast? ['#'] (front ++ '%' :: (path ++ '%' :: (gap ++ '#' :: mark))) =
        some (front ++ '%' :: (path ++ '%' :: gap), mark) :=
      splitLast?_eq_some_iff.2 ⟨by simp, hmark⟩
    have hfield : splitLast? ['%'] (trimEnd isBlank (front ++ '%' :: (path ++ '%' :: gap))) =
        some (front ++ '%' :: path, []) :=
      (splitLast?_trimEnd_iff (by decide)).2 ⟨gap, by simp, hgap⟩
    have hpath : (front ++ '%' :: path).dropWhile (· ≠ '%') = '%' :: path :=
      dropWhile_ne_eq_cons_iff.2 ⟨front, rfl, hfront⟩
    simp only [fields?, hbody, hstatus, hfield, hpath]

theorem fields?_eq_none_iff : fields? record = none ↔ ∀ path status, ¬ Frames record path status := by
  rw [Option.eq_none_iff_forall_ne_some]
  exact ⟨fun h path status hframes => h ⟨path, status⟩ (fields?_eq_some_iff.2 hframes),
    fun h f hf => h f.path f.status (fields?_eq_some_iff.1 hf)⟩

/-! ## The two sides of a rename -/

theorem pieces_eq_pair_iff {old new : List Char} :
    pieces '\t' path = [old, new] ↔ path = old ++ '\t' :: new ∧ '\t' ∉ old ∧ '\t' ∉ new := by
  constructor
  · intro h
    rw [pieces_eq_splitOn] at h
    have hjoin : ['\t'].intercalate (path.splitOn '\t') = path := List.intercalate_splitOn '\t'
    rw [h, List.intercalate_cons_cons, List.intercalate_singleton] at hjoin
    exact ⟨by rw [← hjoin]; simp, not_mem_of_mem_splitOn (h ▸ List.mem_cons_self),
      not_mem_of_mem_splitOn (h ▸ List.mem_cons_of_mem old (List.mem_singleton_self new))⟩
  · rintro ⟨rfl, hold, hnew⟩
    rw [pieces_eq_splitOn, List.splitOn_append_cons_self_of_not_mem hold, List.splitOn_eq_singleton hnew]

/-! ## Reading a record -/

theorem readRecord_of_tells (h : Tells r.toList change) : readRecord r = .ok change := by
  cases h with
  | added h =>
    rw [readRecord, fields?_eq_some_iff.2 h]
    rfl
  | deleted h =>
    rw [readRecord, fields?_eq_some_iff.2 h]
    rfl
  | modified h =>
    rw [readRecord, fields?_eq_some_iff.2 h]
    rfl
  | renamed h hold hnew =>
    have hpair := pieces_eq_pair_iff.2 ⟨rfl, hold.2, hnew.2⟩
    rw [readRecord, fields?_eq_some_iff.2 h]
    simp [hpair, hold.1, hnew.1]

theorem readRecord_of_refused (h : Refused r skipped) : readRecord r = .error skipped := by
  cases h with
  | malformed h => rw [readRecord, fields?_eq_none_iff.2 h]
  | @renameWithoutPair path score h hpair =>
    rw [readRecord, fields?_eq_some_iff.2 h]
    simp only
    split
    · rename_i old new hpieces
      obtain ⟨hpath, hold, hnew⟩ := pieces_eq_pair_iff.1 hpieces
      have hempty : old = [] ∨ new = [] := by
        by_contra hnone
        rw [not_or] at hnone
        exact hpair old new ⟨hnone.1, hold⟩ ⟨hnone.2, hnew⟩ hpath
      simp [hempty]
    · rfl
  | @unknownStatus path status h hknown hrename =>
    rw [readRecord, fields?_eq_some_iff.2 h]
    simp only
    split
    · exact absurd (by simp) hknown
    · exact absurd (by simp) hknown
    · exact absurd (by simp) hknown
    · exact absurd rfl hrename
    · rfl

/-- a record tells a change or is refused -/
theorem tells_or_refused (r : String) : (∃ change, Tells r.toList change) ∨ ∃ skipped, Refused r skipped := by
  by_cases hframes : ∃ path status, Frames r.toList path status
  · obtain ⟨path, status, h⟩ := hframes
    by_cases hknown : status ∈ [['A'], ['D'], ['M']]
    · rw [List.mem_cons, List.mem_cons, List.mem_singleton] at hknown
      rcases hknown with rfl | rfl | rfl
      · exact .inl ⟨_, .added h⟩
      · exact .inl ⟨_, .deleted h⟩
      · exact .inl ⟨_, .modified h⟩
    · by_cases hrename : status.head? = some 'R'
      · obtain ⟨score, rfl⟩ := List.head?_eq_some_iff.1 hrename
        by_cases hpair : ∃ old new, IsSide old ∧ IsSide new ∧ path = old ++ '\t' :: new
        · obtain ⟨old, new, hold, hnew, rfl⟩ := hpair
          exact .inl ⟨_, .renamed h hold hnew⟩
        · exact .inr ⟨_, .renameWithoutPair h fun old new hold hnew hpath => hpair ⟨old, new, hold, hnew, hpath⟩⟩
      · exact .inr ⟨_, .unknownStatus h hknown hrename⟩
  · exact .inr ⟨_, .malformed fun path status h => hframes ⟨path, status, h⟩⟩

/-- **A record is read as the change that it tells** -/
theorem readRecord_eq_ok_iff : readRecord r = .ok change ↔ Tells r.toList change := by
  refine ⟨fun h => ?_, readRecord_of_tells⟩
  rcases tells_or_refused r with ⟨change', htells⟩ | ⟨skipped, hrefused⟩
  · rw [readRecord_of_tells htells] at h
    exact Except.ok.inj h ▸ htells
  · rw [readRecord_of_refused hrefused] at h
    cases h

/-- **or refused with the reason that it gives** -/
theorem readRecord_eq_error_iff : readRecord r = .error skipped ↔ Refused r skipped := by
  refine ⟨fun h => ?_, readRecord_of_refused⟩
  rcases tells_or_refused r with ⟨change, htells⟩ | ⟨skipped', hrefused⟩
  · rw [readRecord_of_tells htells] at h
    cases h
  · rw [readRecord_of_refused hrefused] at h
    exact Except.error.inj h ▸ hrefused

/-- the same words stand in a record that is malformed and in one that is not -/
example : readRecord "x%a b% #M # \n" = .ok (.modified "a b") ∧ readRecord "%a b% #M" = .error (.malformed "%a b% #M") := by
  decide

/-! ## A text of records -/

/-- **A change is resolved** if and only if a record tells it -/
theorem mem_resolve_iff : change ∈ resolve framed ↔ ∃ r ∈ Framing.records framed, Tells r.toList change := by
  rw [resolve, ChangeSet.mem_ofList, changes, List.mem_filterMap]
  refine exists_congr fun r => and_congr_right fun _ => ?_
  rw [← readRecord_eq_ok_iff]
  cases readRecord r <;> simp [Except.toOption]

/-- **A record that tells nothing is reported** with the reason that it gives, and nothing else is -/
theorem mem_skippedLog_iff {e : Entry} :
    e ∈ skippedLog framed ↔ ∃ r ∈ Framing.records framed, ∃ skipped, Refused r skipped ∧ skipped.entry = e := by
  rw [skippedLog, List.mem_filterMap]
  refine exists_congr fun r => and_congr_right fun _ => ?_
  simp only [← readRecord_eq_error_iff]
  cases readRecord r <;> simp

/-- every record tells one change or leaves one entry -/
theorem length_changes_add (framed : String) :
    (changes framed).length + (skippedLog framed).length = (Framing.records framed).length := by
  rw [changes, skippedLog]
  induction Framing.records framed with
  | nil => rfl
  | cons r rs ih =>
    cases h : readRecord r with
    | ok change =>
      simp only [List.filterMap_cons, h, Except.toOption, List.length_cons] at ih ⊢
      omega
    | error skipped =>
      simp only [List.filterMap_cons, h, Except.toOption, List.length_cons] at ih ⊢
      omega

end ChangeLint.Status
