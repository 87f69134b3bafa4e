/-
What the filter of findings selects.

`NamesLine` says which data name a line number: integers, and texts that are a signed integer between blanks. `Stays` says
from the diffs alone which findings stay. Nothing in it depends on how the diffs are indexed.

Results:
- `lineNumberOf_eq_some_iff`: the number of a line is the one that it names;
- `filter_selects`: filtering keeps the findings that stay, in their order and as often as they stand there; so it may be
  done again and part by part, it sees only which lines each path has, and with more diffs it keeps at least as much.
-/
import ChangeLint.Proofs.Finding.Relevance
import ChangeLint.Proofs.Number.Integer
import ChangeLint.Proofs.Text.Broken

namespace ChangeLint.Finding

/-- a datum names a line number: it is an integer, or a text that is one between blanks -/
inductive NamesLine : Datum → Int → Prop
  | int (n : Int) : NamesLine (.int n) n
  | text {s : String} {n : Int} (h : Number.Signed (Text.trim Text.isBlank s.toList) n) : NamesLine (.text s) n

variable {d : Datum} {n : Int}

/-! ## Line numbers -/

theorem lineNumberOf_of_plain (hbool : ∀ b, d ≠ .bool b) (hint : ∀ n, d ≠ .int n) :
    lineNumberOf d = (Number.readInt (Text.stripped d.plain)).toOption := by
  unfold lineNumberOf
  split
  · exact absurd rfl (hbool _)
  · exact absurd rfl (hint _)
  · rfl

/-- a moment is written with its kind in front -/
theorem mem_literal_moment (m : Moment) : 'd' ∈ (Datum.moment m).plain.toList := by
  have hfront : ∀ front rest : String, 'd' ∈ front.toList → 'd' ∈ (front ++ rest).toList := by
    intro front rest h
    rw [String.toList_append]
    exact List.mem_append_left _ h
  cases m with
  | day d => exact hfront _ _ (hfront _ _ (by decide))
  | clock c => exact hfront _ _ (hfront _ _ (by decide))
  | both d c offset => exact hfront _ _ (hfront _ _ (by decide))

/-- a broken text is written with the code of a half -/
theorem mem_plain_broken (t : Text.Broken) : '\\' ∈ (Datum.broken t).plain.toList := by
  obtain ⟨h, hh⟩ : ∃ h, Text.Sign.half h ∈ t.signs := Text.exists_half t.isBroken
  simp only [Datum.plain, Text.escapeHalves, String.toList_ofList, List.mem_flatMap]
  exact ⟨_, hh, List.mem_cons_self⟩

/-- a datum that is no integer and no text reads like no integer -/
theorem lineNumberOf_of_stranger {c : Char} (hc : c ∈ d.plain.toList) (h : Number.IsStranger c)
    (hint : ∀ n, d ≠ .int n) : lineNumberOf d = none := by
  by_cases hbool : ∃ b, d = .bool b
  · obtain ⟨b, rfl⟩ := hbool
    rfl
  · rw [lineNumberOf_of_plain (not_exists.1 hbool) hint]
    exact Number.readInt_of_stranger hc h

/-- **The number of a line** is the one that its datum names -/
theorem lineNumberOf_eq_some_iff : lineNumberOf d = some n ↔ NamesLine d n := by
  have hnone : ∀ {d : Datum} {c : Char}, c ∈ d.plain.toList → Number.IsStranger c → (∀ n, d ≠ .int n) →
      (∀ s, d ≠ .text s) → (lineNumberOf d = some n ↔ NamesLine d n) := by
    intro d c hc h hint htext
    rw [lineNumberOf_of_stranger hc h hint]
    refine ⟨(nomatch ·), fun h => ?_⟩
    cases h with
    | int => exact absurd rfl (hint n)
    | text h => exact absurd rfl (htext _)
  cases d with
  | int m =>
    refine ⟨fun h => ?_, fun h => ?_⟩
    · obtain rfl : m = n := Option.some.inj h
      exact .int m
    · cases h
      rfl
  | text s =>
    have hread : ∀ r : Except Number.IntError Int, r.toOption = some n ↔ r = .ok n := by
      intro r
      cases r <;> simp [Except.toOption]
    rw [lineNumberOf_of_plain (d := .text s) nofun nofun, hread, Datum.plain, Number.readInt_stripped_iff]
    refine ⟨.text, fun h => ?_⟩
    cases h with
    | text h => exact h
  | bool b =>
    rw [show lineNumberOf (.bool b) = none from rfl]
    exact ⟨(nomatch ·), (nomatch ·)⟩
  | null => exact hnone (c := 'N') (by decide) (by decide) nofun nofun
  | real x =>
    obtain ⟨c, hc, hstranger⟩ := Number.exists_stranger_showReal x
    exact hnone (d := .real x) hc hstranger nofun nofun
  | moment m => exact hnone (mem_literal_moment m) (by decide) nofun nofun
  | list items => exact hnone (c := '[') (by simp [Datum.plain, Datum.literal]) (by decide) nofun nofun
  | table members => exact hnone (c := '\x7b') (by simp [Datum.plain, Datum.literal]) (by decide) nofun nofun
  | broken t => exact hnone (mem_plain_broken t) (by decide) nofun nofun
  | brokenTable members => exact hnone (c := '\x7b') (by simp [Datum.plain, Datum.literal]) (by decide) nofun nofun

end ChangeLint.Finding

namespace ChangeLint.Relevance

open Finding (NamesLine)

/-- what stays: findings that are not on a line, and those on a line that a diff of their path shows on either side -/
inductive Stays (diffs : List FileDiff) : Finding → Prop
  | mergeRequest {text : Datum} {source : Source} {severity : Severity} :
    Stays diffs (.mergeRequest text source severity)
  | file {path text : Datum} {source : Source} {severity : Severity} : Stays diffs (.file path text source severity)
  | line {d : FileDiff} {l : DiffLine} {number text : Datum} {n : Int} {kind : LineKind} {source : Source}
      {severity : Severity} (hd : d ∈ diffs) (hl : l ∈ d.lines) (hnumber : NamesLine number n)
      (htouches : l.touches n = true) : Stays diffs (.line (.text d.newPath) number kind text source severity)

variable {diffs others : List FileDiff} {f : Finding} {fs gs ks : List Finding}

theorem stays_iff_counts : Stays diffs f ↔ Counts diffs f := by
  constructor
  · rintro (_ | _ | ⟨hd, hl, hnumber, htouches⟩)
    · exact trivial
    · exact trivial
    · exact ⟨_, rfl, _, Finding.lineNumberOf_eq_some_iff.2 hnumber, _, hd, rfl, _, hl, DiffLine.touches_iff.1 htouches⟩
  · intro h
    cases f with
    | mergeRequest => exact .mergeRequest
    | file => exact .file
    | line path number kind text source severity =>
      obtain ⟨p, hpath, n, hnumber, d, hd, rfl, l, hl, htouches⟩ := h
      cases path with
      | text s =>
        obtain rfl : s = d.newPath := Option.some.inj hpath
        exact .line hd hl (Finding.lineNumberOf_eq_some_iff.1 hnumber) (DiffLine.touches_iff.2 htouches)
      | _ => cases hpath

instance (diffs : List FileDiff) : DecidablePred (Stays diffs) := fun _ => decidable_of_iff _ stays_iff_counts.symm

/-! ## What each finding tells -/

theorem isRelevant_eq_stays (h : HasKey f) : isRelevant diffs f = .ok (decide (Stays diffs f)) := by
  rw [isRelevant_eq h]
  exact congrArg _ (decide_eq_decide.2 stays_iff_counts.symm)

/-- a finding that cannot be looked up is refused, whatever the diffs are -/
theorem isRelevant_of_not_hasKey (h : ¬ HasKey f) :
    ∃ kind, ∀ diffs, isRelevant diffs f = .error (.misuse (.unhashable kind)) := by
  cases f with
  | mergeRequest => exact absurd trivial h
  | file => exact absurd trivial h
  | line path number kind text source severity =>
    cases path with
    | list items => exact ⟨"list", fun _ => rfl⟩
    | table members => exact ⟨"dict", fun _ => rfl⟩
    | brokenTable members => exact ⟨"dict", fun _ => rfl⟩
    | _ => exact absurd trivial h

/-! ## Whole lists -/

theorem kept_eq_stays (h : ∀ f ∈ fs, HasKey f) : kept diffs fs = .ok (fs.filter fun f => Stays diffs f) := by
  rw [kept_eq h]
  simp only [stays_iff_counts]

theorem result_filter : (filter diffs fs).result = kept diffs fs := by
  cases hkept : kept diffs fs with
  | ok ks => exact (filter_of_kept hkept).1
  | error e => rw [filter, hkept, Act.ofExcept_bind_of_error rfl, Act.result_fail]

/-- a finding that cannot be looked up is the end of the filter -/
theorem kept_of_not_hasKey (h : ∃ f ∈ fs, ¬ HasKey f) : ∃ kind, kept diffs fs = .error (.misuse (.unhashable kind)) := by
  induction fs with
  | nil =>
    obtain ⟨f, hf, -⟩ := h
    cases hf
  | cons g fs ih =>
    by_cases hg : HasKey g
    · obtain ⟨f, hf, hkey⟩ := h
      rcases List.mem_cons.1 hf with rfl | hf
      · exact absurd hg hkey
      · obtain ⟨kind, hkind⟩ := ih ⟨f, hf, hkey⟩
        exact ⟨kind, by rw [kept, isRelevant_eq hg, hkind]; rfl⟩
    · obtain ⟨kind, hkind⟩ := isRelevant_of_not_hasKey hg
      exact ⟨kind, by rw [kept, hkind]; rfl⟩

theorem hasKey_of_kept (h : kept diffs fs = .ok ks) : ∀ f ∈ fs, HasKey f := by
  intro f hf
  by_contra hkey
  obtain ⟨kind, hkind⟩ := @kept_of_not_hasKey diffs fs ⟨f, hf, hkey⟩
  rw [hkind] at h
  cases h

theorem kept_eq_ok_iff : kept diffs fs = .ok ks ↔ (∀ f ∈ fs, HasKey f) ∧ ks = fs.filter fun f => Stays diffs f := by
  constructor
  · intro h
    have hkey := hasKey_of_kept h
    rw [kept_eq_stays hkey] at h
    exact ⟨hkey, (Except.ok.inj h).symm⟩
  · rintro ⟨hkey, rfl⟩
    exact kept_eq_stays hkey

theorem kept_append (fs gs : List Finding) :
    kept diffs (fs ++ gs) = (kept diffs fs).bind fun ks => (kept diffs gs).map (ks ++ ·) := by
  induction fs with
  | nil =>
    rw [List.nil_append, kept, Except.bind]
    cases kept diffs gs <;> rfl
  | cons f fs ih =>
    rw [List.cons_append, kept, kept, ih]
    cases isRelevant diffs f with
    | error e => rfl
    | ok keep =>
      cases kept diffs fs with
      | error e => rfl
      | ok ks =>
        cases kept diffs gs with
        | error e => rfl
        | ok ls => cases keep <;> rfl

/-- the same lines for each path, however the diffs are ordered and cut -/
def SameLines (diffs others : List FileDiff) : Prop :=
  ∀ path l, (∃ d ∈ diffs, d.newPath = path ∧ l ∈ d.lines) ↔ ∃ d ∈ others, d.newPath = path ∧ l ∈ d.lines

theorem Stays.mono (hsub : ∀ d ∈ diffs, d ∈ others) (h : Stays diffs f) : Stays others f := by
  cases h with
  | mergeRequest => exact .mergeRequest
  | file => exact .file
  | line hd hl hnumber htouches => exact .line (hsub _ hd) hl hnumber htouches

theorem Stays.of_sameLines (hsame : SameLines diffs others) (h : Stays diffs f) : Stays others f := by
  cases h with
  | mergeRequest => exact .mergeRequest
  | file => exact .file
  | line hd hl hnumber htouches =>
    obtain ⟨d, hd, hpath, hl⟩ := (hsame _ _).1 ⟨_, hd, rfl, hl⟩
    rw [← hpath]
    exact .line hd hl hnumber htouches

theorem SameLines.symm (h : SameLines diffs others) : SameLines others diffs := fun path l => (h path l).symm

theorem isRelevant_of_sameLines (h : SameLines diffs others) (f : Finding) : isRelevant others f = isRelevant diffs f := by
  by_cases hkey : HasKey f
  · rw [isRelevant_eq_stays hkey, isRelevant_eq_stays hkey]
    exact congrArg _ (decide_eq_decide.2 ⟨Stays.of_sameLines h.symm, Stays.of_sameLines h⟩)
  · obtain ⟨kind, hkind⟩ := isRelevant_of_not_hasKey hkey
    rw [hkind, hkind]

theorem kept_of_sameLines (h : SameLines diffs others) (fs : List Finding) : kept others fs = kept diffs fs := by
  induction fs with
  | nil => rfl
  | cons f fs ih => rw [kept, kept, isRelevant_of_sameLines h, ih]

/-- what the filter does with findings -/
structure Selects (diffs : List FileDiff) (fs : List Finding) : Prop where
  /-- findings that can be looked up: those that stay, in their order and as often as they stand there -/
  stays : (∀ f ∈ fs, HasKey f) → (filter diffs fs).result = .ok (fs.filter fun f => Stays diffs f)
  /-- a finding with a list or a table for a path is refused -/
  refused : (∃ f ∈ fs, ¬ HasKey f) → ∃ kind, (filter diffs fs).result = .error (.misuse (.unhashable kind))
  /-- what was kept is kept again -/
  again : ∀ ks, (filter diffs fs).result = .ok ks → (filter diffs ks).result = .ok ks
  /-- two lists one after the other are kept as each of them is -/
  append : ∀ gs, (filter diffs (fs ++ gs)).result =
    (filter diffs fs).result.bind fun ks => (filter diffs gs).result.map (ks ++ ·)
  /-- only the lines of each path count -/
  grouping : ∀ others, SameLines diffs others → filter others fs = filter diffs fs
  /-- with more diffs nothing is lost that was kept -/
  more : ∀ others, (∀ d ∈ diffs, d ∈ others) → ∀ ks, (filter diffs fs).result = .ok ks →
    ∃ ls, (filter others fs).result = .ok ls ∧ ks.Sublist ls

/-- **Filtering keeps exactly the findings that stay** -/
theorem filter_selects (diffs : List FileDiff) (fs : List Finding) : Selects diffs fs where
  stays h := by rw [result_filter, kept_eq_stays h]
  refused h := by
    rw [result_filter]
    exact kept_of_not_hasKey h
  again ks h := by
    rw [result_filter, kept_eq_ok_iff] at h ⊢
    obtain ⟨hkey, rfl⟩ := h
    exact ⟨fun f hf => hkey f (List.mem_of_mem_filter hf), by simp only [List.filter_filter, Bool.and_self]⟩
  append gs := by rw [result_filter, result_filter, result_filter, kept_append]
  grouping others h := by rw [filter, filter, kept_of_sameLines h]
  more others hsub ks h := by
    rw [result_filter, kept_eq_ok_iff] at h
    obtain ⟨hkey, rfl⟩ := h
    refine ⟨_, by rw [result_filter, kept_eq_stays hkey], List.monotone_filter_right fs fun f hf => ?_⟩
    simp only [decide_eq_true_eq] at hf ⊢
    exact hf.mono hsub

end ChangeLint.Relevance
