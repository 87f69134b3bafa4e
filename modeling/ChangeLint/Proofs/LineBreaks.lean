/-
Line breaks that a shell leaves behind delimiters.

A shell may put nothing, a line feed, or a carriage return and a line feed behind each delimiter, the last one included, and
may do so differently each time. A record does not see the choice that was made in front of it, nor the reader the one behind
the last record.

Results:
- `recordsOf_broken`: records that framing keeps come back whatever the breaks are;
- `transparent_iff`: they are the only ones, and then a listing and a diff are read as without any break.
-/
import ChangeLint.Change.Status
import ChangeLint.Diff.Parse
import ChangeLint.Proofs.Framing

namespace ChangeLint.Framing

open ChangeLint.Text

/-- what a shell may leave behind a delimiter -/
inductive Break
  | none
  | lineFeed
  | both
deriving DecidableEq, Repr

/-- the characters of a break -/
def Break.chars : Break → List Char
  | .none => []
  | .lineFeed => ['\n']
  | .both => ['\r', '\n']

/-- records in one text, each with the delimiter and a break behind it -/
def broken (rs : List (List Char × Break)) : List Char := rs.flatMap fun r => r.1 ++ (delimiter ++ r.2.chars)

/-- a record that framing keeps: it is not empty and safe, and no break stands in front of it -/
structure Kept (r : List Char) : Prop where
  nonempty : r ≠ []
  no_lineFeed : ¬ ['\n'] <+: r
  no_both : ¬ ['\r', '\n'] <+: r
  safe : Safe r

/-- the breaks behind some records are not seen, however they are chosen -/
structure Transparent (ls : List (List Char)) : Prop where
  /-- the records come back -/
  records : ∀ rs : List (List Char × Break), rs.map Prod.fst = ls →
    Framing.records (String.ofList (broken rs)) = ls.map String.ofList
  /-- a diff is the one without breaks, and so is what is noted when it is read -/
  parsed : ∀ rs : List (List Char × Break), rs.map Prod.fst = ls →
    Diff.parse (String.ofList (broken rs)) = Diff.parse (String.ofList (framed ls)) ∧
      Diff.read (String.ofList (broken rs)) = Diff.read (String.ofList (framed ls))
  /-- a listing has the changes that it has without breaks, and the same of its records are skipped -/
  resolved : ∀ rs : List (List Char × Break), rs.map Prod.fst = ls →
    Status.resolve (String.ofList (broken rs)) = Status.resolve (String.ofList (framed ls)) ∧
      Status.skippedLog (String.ofList (broken rs)) = Status.skippedLog (String.ofList (framed ls))

variable {l r : List Char} {b : Break} {rs : List (List Char × Break)} {ls : List (List Char)}

/-! ## One record -/

/-- a character that the delimiter does not have does no harm in front of a record -/
theorem safe_cons {c : Char} (hc : c ∉ delimiter) (h : Safe l) : Safe (c :: l) := by
  constructor
  · intro hinfix
    have hsplit : delimiter <:+: [] ∨ delimiter <:+: l := (infix_append_cons (u := []) hc).1 hinfix
    rcases hsplit with hnil | hl
    · exact absurd hnil (by decide)
    · exact h.1 hl
  · intro hsuffix
    rcases List.suffix_cons_iff.1 hsuffix with hall | hl
    · apply hc
      rw [← (List.cons.inj hall).1]
      decide
    · exact h.2 hl

theorem Break.safe_append (b : Break) (h : Safe l) : Safe (b.chars ++ l) := by
  cases b with
  | none => exact h
  | lineFeed => exact safe_cons (by decide) h
  | both => exact safe_cons (by decide) (safe_cons (by decide) h)

theorem Kept.dropBreak_eq (h : Kept r) : dropBreak r = r := by
  unfold dropBreak
  split
  · exact absurd (List.prefix_append ['\r', '\n'] _) h.no_both
  · exact absurd (List.prefix_append ['\n'] _) h.no_lineFeed
  · rfl

/-- **One break in front of a record is dropped**, whichever it is -/
theorem dropBreak_append (b : Break) (h : dropBreak r = r) : dropBreak (b.chars ++ r) = r := by
  cases b with
  | none => exact h
  | lineFeed => rfl
  | both => rfl

theorem dropBreak_chars (b : Break) : dropBreak b.chars = [] := by
  cases b <;> rfl

theorem dropBreak_suffix (l : List Char) : dropBreak l <:+ l := by
  unfold dropBreak
  split
  · exact List.suffix_append ['\r', '\n'] _
  · exact List.suffix_cons '\n' _
  · exact List.suffix_rfl

theorem Safe.suffix (h : Safe l) (hr : r <:+ l) : Safe r :=
  ⟨fun hpart => h.1 (hpart.trans hr.isInfix), fun hend => h.2 (hend.trans hr)⟩

/-! ## All records -/

/-- a safe piece is one record, without the break that may stand in front of it -/
theorem recordsOf_append (h : Safe l) (hne : dropBreak l ≠ []) (rest : List Char) :
    recordsOf (l ++ (delimiter ++ rest)) = dropBreak l :: recordsOf rest := by
  rw [recordsOf, delimiter, cut_append (cuttable_of_safe h), List.map_cons, List.filter_cons_of_pos (by simpa using hne)]
  rfl

/-- a break alone is no record -/
theorem recordsOf_chars (b : Break) : recordsOf b.chars = [] := by
  have hfree : ¬ delimiter <:+: b.chars := by
    cases b <;> decide
  rw [recordsOf, cut_eq_singleton hfree, List.map_singleton, dropBreak_chars]
  rfl

/-- kept records behind a break: by induction on the records, each of which has the break of the one before it -/
theorem recordsOf_chars_append (b : Break) (h : ∀ r ∈ rs, Kept r.1) :
    recordsOf (b.chars ++ broken rs) = rs.map Prod.fst := by
  induction rs generalizing b with
  | nil =>
    rw [broken, List.flatMap_nil, List.append_nil]
    exact recordsOf_chars b
  | cons r rs ih =>
    have hr : Kept r.1 := h r List.mem_cons_self
    have hdrop : dropBreak (b.chars ++ r.1) = r.1 := dropBreak_append b hr.dropBreak_eq
    have hrest := ih r.2 fun q hq => h q (List.mem_cons_of_mem r hq)
    calc recordsOf (b.chars ++ broken (r :: rs))
        = recordsOf (b.chars ++ r.1 ++ (delimiter ++ (r.2.chars ++ broken rs))) := by
          simp only [broken, List.flatMap_cons, List.append_assoc]
      _ = dropBreak (b.chars ++ r.1) :: recordsOf (r.2.chars ++ broken rs) := by
          apply recordsOf_append (b.safe_append hr.safe)
          rw [hdrop]
          exact hr.nonempty
      _ = r.1 :: rs.map Prod.fst := by rw [hdrop, hrest]

/-- **Kept records come back**, whatever the breaks are -/
theorem recordsOf_broken (h : ∀ r ∈ rs, Kept r.1) : recordsOf (broken rs) = rs.map Prod.fst :=
  recordsOf_chars_append .none h

/-- the choice of no breaks at all -/
def bare (ls : List (List Char)) : List (List Char × Break) := ls.map fun l => (l, .none)

theorem map_fst_bare (ls : List (List Char)) : (bare ls).map Prod.fst = ls := by
  rw [bare, List.map_map]
  exact List.map_id ls

/-- without breaks the text is the framed one -/
theorem broken_bare (ls : List (List Char)) : broken (bare ls) = framed ls := by
  rw [broken, bare, framed, List.flatMap_map]
  simp only [Break.chars, List.append_nil]

/-- records that come back from a framed text are kept ones -/
theorem kept_of_recordsOf (h : recordsOf (framed ls) = ls) : ∀ l ∈ ls, Kept l := by
  have hpieces : ∀ l ∈ ls, l ≠ [] ∧ Safe l := by
    intro l hl
    rw [← h, recordsOf, List.mem_filter, List.mem_map] at hl
    obtain ⟨⟨p, hp, rfl⟩, hne⟩ := hl
    exact ⟨by simpa using hne, (safe_of_mem_cut hp).suffix (dropBreak_suffix p)⟩
  -- so that the text is cut into these very records, and nothing is dropped from them
  have hcut : cut '@' delimiterTail (framed ls) = ls ++ [[]] := by
    have hflat := cut_flatMap (fun l hl => cuttable_of_safe (hpieces l hl).2) []
    rwa [List.append_nil, cut_nil] at hflat
  have hdrop : (ls.map dropBreak).filter (fun r => !r.isEmpty) = ls := by
    rw [recordsOf, hcut, List.map_append, List.filter_append] at h
    simpa [dropBreak] using h
  have hsame : ls.map dropBreak = ls := by
    have hlength : ((ls.map dropBreak).filter fun r => !r.isEmpty).length = (ls.map dropBreak).length := by
      rw [hdrop, List.length_map]
    rwa [List.filter_eq_self.2 (List.length_filter_eq_length_iff.1 hlength)] at hdrop
  intro l hl
  have hl' : dropBreak l = l := List.map_inj_left.1 (hsame.trans (List.map_id ls).symm) l hl
  refine ⟨(hpieces l hl).1, ?_, ?_, (hpieces l hl).2⟩
  · rintro ⟨rest, rfl⟩
    exact absurd (congrArg List.length hl') (Nat.ne_of_lt (Nat.lt_succ_self rest.length))
  · rintro ⟨rest, rfl⟩
    exact absurd (congrArg List.length hl') (Nat.ne_of_lt (Nat.lt_add_of_pos_right Nat.two_pos))

/-- **Line breaks behind delimiters are not seen** exactly if the records are kept ones: then, and only then, the records come
back for every choice of breaks, and with them the diff or the listing that the text is. -/
theorem transparent_iff (ls : List (List Char)) : Transparent ls ↔ ∀ l ∈ ls,
    l ≠ [] ∧ ¬ "\n".toList <+: l ∧ ¬ "\r\n".toList <+: l ∧
      ¬ "@delimiter@".toList <:+: l ∧ ¬ "@delimiter".toList <:+ l := by
  constructor
  · intro h l hl
    have hrecords : recordsOf (framed ls) = ls := by
      have hnone := h.records (bare ls) (map_fst_bare ls)
      rw [broken_bare, records, String.toList_ofList] at hnone
      exact List.map_injective_iff.2 (fun _ _ => String.ofList_injective) hnone
    have hkept := kept_of_recordsOf hrecords l hl
    exact ⟨hkept.nonempty, hkept.no_lineFeed, hkept.no_both, hkept.safe.1, hkept.safe.2⟩
  · intro h
    have hkept : ∀ l ∈ ls, Kept l := by
      intro l hl
      obtain ⟨hne, hlineFeed, hboth, hfree, hend⟩ := h l hl
      exact ⟨hne, hlineFeed, hboth, hfree, hend⟩
    have hbroken : ∀ rs : List (List Char × Break), rs.map Prod.fst = ls → recordsOf (broken rs) = ls := by
      rintro rs rfl
      exact recordsOf_broken fun r hr => hkept r.1 (List.mem_map_of_mem hr)
    have hsame : ∀ rs : List (List Char × Break), rs.map Prod.fst = ls →
        recordsOf (String.ofList (broken rs)).toList = recordsOf (String.ofList (framed ls)).toList := by
      intro rs hrs
      rw [String.toList_ofList, String.toList_ofList, ← broken_bare, hbroken rs hrs, hbroken (bare ls) (map_fst_bare ls)]
    refine ⟨fun rs hrs => ?_, fun rs hrs => ?_, fun rs hrs => ?_⟩
    · rw [records, String.toList_ofList, hbroken rs hrs]
    · have hparse : Diff.parse (String.ofList (broken rs)) = Diff.parse (String.ofList (framed ls)) := by
        rw [Diff.parse, Diff.parse, hsame rs hrs]
      refine ⟨hparse, ?_⟩
      rw [Diff.read, Diff.read, hparse, hsame rs hrs]
    · have hrecords : records (String.ofList (broken rs)) = records (String.ofList (framed ls)) := by
        rw [records, records, hsame rs hrs]
      refine ⟨?_, ?_⟩
      · rw [Status.resolve, Status.resolve, Status.changes, Status.changes, hrecords]
      · rw [Status.skippedLog, Status.skippedLog, hrecords]

/-- records that look like parts of a delimiter or of a break, and a record that begins with one -/
theorem transparent_awkward :
    Transparent ["@".toList, "delimiter@".toList, "\rx\n".toList, "@delimite".toList] ∧ ¬ Transparent ["\nx".toList] := by
  constructor
  · exact (transparent_iff _).2 (by decide)
  · intro h
    exact absurd ((transparent_iff _).1 h) (by decide)

end ChangeLint.Framing
