/-
Which findings can be reported.

Records and annotations need texts in the fields of a finding and lines that are not too long, and nothing else. The table
needs a terminal besides. Places and texts are escaped for it, so a lawful terminal accepts them whatever they hold; titles
are read as markup, so the table is drawn exactly if the terminal accepts each of them.

Results, for findings that checkers write:
- `exists_records`, `exists_annotations`: there are records and annotations of them;
- `exists_tableLines_iff`: the table is drawn exactly if all titles are accepted;
- `exists_printed_iff`: what this says for reports;
- `renders_printed`: the reports of findings in all formats, for every lawful terminal;
- `title_unprinted`: a title that is a closing tag leaves no table.
-/
import ChangeLint.Interpreter.Usual
import ChangeLint.Proofs.Order
import ChangeLint.Proofs.Report.Directive
import ChangeLint.Proofs.Terminal

namespace ChangeLint

variable {f : Finding} {fs : List Finding} {t : Terminal} {half : Text.Half → Char}

theorem Finding.IsSendable.isPrintable (h : f.IsSendable) : f.IsPrintable := by
  refine ⟨h.typed.1, h.typed.2.1, isText_path h.typed, fun number hnumber => ⟨?_, h.short number hnumber⟩⟩
  cases f with
  | mergeRequest text source severity => cases hnumber
  | file path text source severity => cases hnumber
  | line path number' kind text source severity =>
    cases hnumber
    exact h.typed.2.2.2.2

namespace Report

/-! ## Records and annotations -/

/-- records of all findings are tagged -/
theorem exists_record_eq (f : Finding) : ∃ tag fields, record f = Finding.tagged tag fields := by
  cases f <;> exact ⟨_, _, rfl⟩

theorem portable_record (h : f.IsSendable) : Json.Portable (.table (record f)) := by
  cases hrecord : f.record? with
  | some members =>
    have heq : record f = members := by
      cases f with
      | mergeRequest text source severity => cases hrecord
      | file path text source severity => exact Option.some.inj hrecord
      | line path number kind text source severity => exact Option.some.inj hrecord
    rw [heq]
    exact Finding.portable_record? h hrecord
  | none =>
    cases f with
    | mergeRequest text source severity =>
      exact Finding.portable_tagged ⟨by simp, Finding.portable_of_isText h.typed.1,
        Finding.portable_sourceDatum h.typed.2.1 h.typed.2.2.1, trivial, trivial⟩
    | file path text source severity => cases hrecord
    | line path number kind text source severity => cases hrecord

variable {id : String}

theorem portable_identified (h : f.IsSendable) : Json.Portable (.table (record f ++ [("id", .text id)])) := by
  have hrecord := portable_record h
  obtain ⟨tag, fields, heq⟩ := exists_record_eq f
  rw [heq] at hrecord ⊢
  obtain ⟨-, htag, hfields, -⟩ := hrecord
  exact ⟨by simp [Finding.tagged], htag, hfields, trivial, trivial⟩

/-- an identity does not make a record deeper -/
theorem depth_identified (h : f.IsSendable) : (Datum.table (record f ++ [("id", .text id)])).depth ≤ 3 := by
  have htext := Finding.depth_of_isText h.typed.1
  have htitle := Finding.depth_of_isText h.typed.2.1
  have hdescription := Finding.depth_of_isText h.typed.2.2.1
  cases hrecord : f.record? with
  | some members =>
    have hdepth := Finding.depth_record? h.typed hrecord
    cases f with
    | mergeRequest text source severity => cases hrecord
    | file path text source severity =>
      cases hrecord
      exact hdepth.le
    | line path number kind text source severity =>
      cases hrecord
      exact hdepth.le
  | none =>
    cases f with
    | mergeRequest text source severity =>
      simp only [Finding.text, Finding.source] at htext htitle hdescription
      simp [record, Finding.tagged, Finding.sourceDatum, Datum.depth, Datum.membersDepth, htext, htitle, hdescription]
    | file path text source severity => cases hrecord
    | line path number kind text source severity => cases hrecord

section

variable [Interpreter]

theorem identified_eq (h : f.identity = .ok id) : identified f = .ok (.table (record f ++ [("id", .text id)])) := by
  rw [identified, h]
  rfl

/-- the report for programs is what JSON makes of the records with their identities -/
theorem exists_identified (h : ∀ f ∈ fs, f.IsSendable) : ∃ ds, fs.mapM identified = .ok ds ∧
    List.Forall₂ (fun d f => ∃ id, f.identity = .ok id ∧ d = .table (record f ++ [("id", .text id)])) ds fs ∧
      records fs = .ok (Json.indented Text.lowStand (.list ds)) ∧ Json.Portable (.list ds) ∧
        (Datum.list ds).depth ≤ Interpreter.shallow := by
  suffices hobjects : ∃ ds, fs.mapM identified = .ok ds ∧
      List.Forall₂ (fun d f => ∃ id, f.identity = .ok id ∧ d = .table (record f ++ [("id", .text id)])) ds fs ∧
        Json.PortableItems ds ∧ Datum.itemsDepth ds ≤ 3 by
    obtain ⟨ds, hds, hforms, hportable, hdepth⟩ := hobjects
    have hshallow : (Datum.list ds).depth ≤ Interpreter.shallow := (Nat.succ_le_succ hdepth).trans (by decide)
    refine ⟨ds, hds, hforms, ?_, hportable, hshallow⟩
    rw [records, hds]
    exact Json.text_indented hportable (Interpreter.unwritten_shallow hshallow)
  induction fs with
  | nil => exact ⟨[], rfl, .nil, trivial, Nat.zero_le _⟩
  | cons f fs ih =>
    obtain ⟨hf, hfs⟩ := List.forall_mem_cons.1 h
    obtain ⟨id, hid⟩ := Finding.exists_identity hf
    obtain ⟨ds, hds, hforms, hportable, hdepth⟩ := ih hfs
    refine ⟨.table (record f ++ [("id", .text id)]) :: ds, ?_, .cons ⟨id, hid, rfl⟩ hforms,
      ⟨portable_identified hf, hportable⟩, max_le (depth_identified hf) hdepth⟩
    rw [List.mapM_cons, identified_eq hid, hds]
    rfl

theorem exists_records (h : ∀ f ∈ fs, f.IsSendable) : ∃ s, records fs = .ok s := by
  obtain ⟨ds, -, -, hrecords, -⟩ := exists_identified h
  exact ⟨_, hrecords⟩

theorem exists_annotations (h : ∀ f ∈ fs, f.IsSendable) : ∃ s, annotations fs = .ok s :=
  ⟨_, annotations_eq fun f hf => (h f hf).isPrintable⟩

end

/-! ## The table -/

/-- the markup of the cells of a finding whose fields are texts -/
def cells (t : Terminal) (f : Finding) : List String :=
  [label f.severity, f.source.title.plain, t.escape f.locationText, t.escape f.text.plain]

theorem shownText_of_isText {d : Datum} (h : d.isText) : shownText half t d = .ok (t.escape d.plain) := by
  rw [eq_text_of_isText h]
  rfl

theorem titleText_of_isText {d : Datum} (h : d.isText) : titleText half d = .ok d.plain := by
  rw [eq_text_of_isText h]
  rfl

open Terminal (isStyle_red isStyle_redBold isStyle_yellow isStyle_green)

theorem isBare_counted (n : Nat) {what : String} (h : Terminal.IsBare what) : Terminal.IsBare (toString n ++ what) := by
  intro c hc
  rw [String.toList_append, List.mem_append] at hc
  rcases hc with hc | hc
  · rw [Nat.toString_eq_repr, Nat.repr_eq_ofList_toDigits, String.toList_ofList] at hc
    have hdigit := Json.mem_toDigits_bounds hc
    simp only [List.mem_cons, List.not_mem_nil, or_false, not_or]
    constructor <;> (rintro rfl; exact absurd hdigit (by decide))
  · exact h c hc

theorem accepts_label (h : t.Lawful) (x : Severity) : t.Accepts (label x) := by
  cases x with
  | error => exact h.accepts_styled isStyle_redBold (by decide)
  | warning => exact h.accepts_styled isStyle_yellow (by decide)

theorem accepts_summary (h : t.Lawful) (fs : List Finding) : t.Accepts (summary fs) := by
  have herror : Terminal.IsBare " error(s)" := by decide
  have hwarning : Terminal.IsBare " warning(s)" := by decide
  have hwarnings := h.accepts_styled isStyle_yellow (isBare_counted (count .warning fs) hwarning)
  have hall := h.styled _ _ _ isStyle_red (isBare_counted (count .error fs) herror) (h.bare ", " _ (by decide) hwarnings)
  rw [← String.append_assoc] at hall
  exact hall

/-- the cells of a finding are accepted exactly if its title is -/
theorem accepts_cells_iff (h : t.Lawful) : (∀ cell ∈ cells t f, t.Accepts cell) ↔ t.Accepts f.source.title.plain := by
  simp only [cells, List.forall_mem_cons, List.not_mem_nil, false_implies, implies_true, and_true]
  exact ⟨fun hcells => hcells.2.1, fun htitle => ⟨accepts_label h f.severity, htitle, h.escaped _, h.escaped _⟩⟩

/-- titles and places can be compared -/
theorem comparable_keys (h : ∀ f ∈ fs, f.IsTyped) :
    Order.Comparable (fs.map fun f => ([f.source.title, .text f.locationText], f)) := by
  intro x hx y hy
  obtain ⟨f, hf, rfl⟩ := List.mem_map.1 hx
  obtain ⟨g, hg, rfl⟩ := List.mem_map.1 hy
  have hkey : ∀ f ∈ fs, [f.source.title, .text f.locationText] = [f.source.title.plain, f.locationText].map Datum.text := by
    intro f hf
    rw [eq_text_of_isText (h f hf).2.1]
    rfl
  rw [hkey f hf, hkey g hg]
  exact exists_beforeItems _ _

section

variable [Interpreter]

theorem row_eq (h : f.IsSendable) : row half t f = .ok (cells t f) := by
  rw [row, Finding.location_eq h, ok_bind, shownText_of_isText rfl, shownText_of_isText h.typed.1,
    titleText_of_isText h.typed.2.1]
  rfl

/-- the table has a row for each finding, whatever stands for halves -/
theorem exists_sheet_eq (h : ∀ f ∈ fs, f.IsSendable) : ∃ sorted : List Finding, sorted.Perm fs ∧
    ∀ half, sheet half t fs = .ok ⟨tableTitle, columns, sorted.map (cells t)⟩ := by
  obtain ⟨sorted, hsorted, hperm⟩ := Order.exists_sort (comparable_keys fun f hf => (h f hf).typed)
  have hkeys : fs.mapM sortKey = .ok (fs.map fun f => ([f.source.title, .text f.locationText], f)) := by
    rw [mapM_eq_ok, List.forall₂_map_right_iff, List.forall₂_same]
    intro f hf
    rw [sortKey, Finding.location_eq (h f hf)]
    rfl
  have hfindings : (sorted.map Prod.snd).Perm fs := by
    refine (hperm.map Prod.snd).trans ?_
    rw [List.map_map]
    simp [Function.comp_def]
  refine ⟨sorted.map Prod.snd, hfindings, fun half => ?_⟩
  have hrows : (sorted.mapM fun x => row half t x.2) = .ok (sorted.map fun x => cells t x.2) := by
    rw [mapM_eq_ok, List.forall₂_map_right_iff, List.forall₂_same]
    exact fun x hx => row_eq (h x.2 (hfindings.mem_iff.1 (List.mem_map_of_mem hx)))
  rw [sheet, hkeys, ok_bind, hsorted, Except.mapError, ok_bind, hrows, List.map_map]
  rfl

/-- **The table of findings is drawn** exactly if the terminal accepts their titles; what stands for halves makes no
difference -/
theorem exists_tableLines_iff (ht : t.Lawful) (h : ∀ f ∈ fs, f.IsSendable) :
    ∃ lines : Except Failure (List String), (∀ half, tableLines half t fs = lines) ∧
      ((∃ ls, lines = .ok ls) ↔ ∀ f ∈ fs, t.Accepts f.source.title.plain) := by
  by_cases hempty : fs = []
  · subst hempty
    have hbare : Terminal.IsBare "No issues found in the changed lines." := by decide
    obtain ⟨ls, hls⟩ := ht.accepts_styled isStyle_green hbare
    refine ⟨.ok ls, fun half => ?_, by simp⟩
    rw [tableLines, nothingFound, hls]
    rfl
  · obtain ⟨sorted, hperm, hsheet⟩ := @exists_sheet_eq _ t _ h
    obtain ⟨below, hbelow⟩ := accepts_summary ht fs
    refine ⟨_, fun half => by rw [tableLines, if_neg (by simpa using hempty), hsheet half, ok_bind], ?_⟩
    have hregular : Terminal.IsRegular ⟨tableTitle, columns, sorted.map (cells t)⟩ := by
      refine ⟨show Terminal.IsBare tableTitle by decide, show ∀ c ∈ columns, Terminal.IsBare c.header by decide,
        fun row hrow => ?_⟩
      obtain ⟨f, -, rfl⟩ := List.mem_map.1 hrow
      rfl
    have hcells : (∀ row ∈ sorted.map (cells t), ∀ cell ∈ row, t.Accepts cell) ↔
        ∀ f ∈ fs, t.Accepts f.source.title.plain := by
      simp only [List.forall_mem_map, accepts_cells_iff ht, hperm.mem_iff]
    rw [← hcells, ← ht.table _ hregular, hbelow, exists_bind_eq_ok]
    refine ⟨fun ⟨ls, hls, _⟩ => exists_mapError_eq_ok.1 ⟨ls, hls⟩, fun ⟨ls, hls⟩ => ⟨ls, by rw [hls]; rfl, _, rfl⟩⟩

/-- **A report of findings that checkers write is printed**: always as records or annotations, and as a table exactly if all
titles are accepted -/
theorem exists_printed_iff (ht : t.Lawful) (format : Format) (h : ∀ f ∈ fs, f.IsSendable) :
    (∃ s, printed format t fs = .ok s) ↔ format = .rich → ∀ f ∈ fs, t.Accepts f.source.title.plain := by
  cases format with
  | rich =>
    obtain ⟨lines, hlines, hiff⟩ := exists_tableLines_iff ht h
    have hprinted : printed .rich t fs = lines.map joined := by
      rw [printed]
      exact Failure.settled_of_const fun half => by rw [hlines half]
    rw [hprinted, exists_map_eq_ok, hiff]
    simp
  | json =>
    exact ⟨fun _ hformat => (nomatch hformat), fun _ => exists_map_eq_ok.2 (exists_records h)⟩
  | github =>
    exact ⟨fun _ hformat => (nomatch hformat), fun _ => exists_map_eq_ok.2 (exists_annotations h)⟩

/-- which reports of findings are printed in a terminal -/
structure Renders (t : Terminal) (fs : List Finding) : Prop where
  records : ∃ s, printed .json t fs = .ok s
  annotations : ∃ s, printed .github t fs = .ok s
  /-- whatever paths and texts hold, the table is printed if and only if all titles are accepted as markup -/
  table : (∃ s, printed .rich t fs = .ok s) ↔ ∀ f ∈ fs, t.Accepts f.source.title.plain

/-- **Findings are rendered** whatever texts they have, but for titles in a table -/
theorem renders_printed (ht : t.Lawful) (h : ∀ f ∈ fs, f.IsSendable) : Renders t fs where
  records := (exists_printed_iff ht .json h).2 nofun
  annotations := (exists_printed_iff ht .github h).2 nofun
  table := by
    rw [exists_printed_iff ht .rich h]
    exact ⟨fun haccepts => haccepts rfl, fun haccepts _ => haccepts⟩

end

/-- a closing tag in a path, one behind an open bracket in a text, and a title in a style -/
def bracketed : Finding := .file (.text "a[/b].py") (.text "x[a[/b]\\") ⟨.text "[b]T[/b]", .text ""⟩ .warning

theorem renders_bracketed : (Terminal.colorless 80).Lawful ∧ (∀ f ∈ [bracketed], f.IsSendable) ∧
    @Renders .usual (.colorless 80) [bracketed] ∧ ∃ s, @printed .usual .rich (.colorless 80) [bracketed] = .ok s := by
  have hsendable : ∀ f ∈ [bracketed], f.IsSendable := by
    rw [List.forall_mem_singleton]
    exact ⟨⟨rfl, rfl, rfl, rfl⟩, by decide⟩
  have hrenders := @renders_printed _ _ .usual (Terminal.colorless_lawful 80) hsendable
  refine ⟨Terminal.colorless_lawful 80, hsendable, hrenders, (@Renders.table .usual _ _ hrenders).2 ?_⟩
  rw [List.forall_mem_singleton, Terminal.colorless_accepts_iff]
  decide

/-- a finding with a title that is a closing tag -/
def closer : Finding := .line (.text "a") (.int 1) .added (.text "t") ⟨.text "[/]", .text "D"⟩ .error

/-- **A title that is a closing tag leaves no table**, though all fields are texts -/
theorem title_unprinted :
    (∀ f ∈ [closer], f.IsSendable) ∧ ¬ ∃ s, @printed .usual .rich (.colorless 200) [closer] = .ok s := by
  have hsendable : ∀ f ∈ [closer], f.IsSendable := by
    rw [List.forall_mem_singleton]
    exact ⟨⟨rfl, rfl, rfl, rfl, rfl⟩, by decide +kernel⟩
  refine ⟨hsendable, ?_⟩
  rw [@exists_printed_iff _ _ .usual (Terminal.colorless_lawful 200) .rich hsendable, List.forall_mem_singleton,
    Terminal.colorless_accepts_iff]
  decide

end Report

end ChangeLint
