/-
What an analysis finds was written by its checkers.

If all findings of checkers have a property, whatever the checkers look at, then so have those of an analysis: a run of
checkers joins their findings, and filtering by the diff drops some. An analysis takes no step on a connection, if its
checkers take none. The checkers of this library write texts into the fields of findings and numbers into their lines, none
of them too long, and their titles are bare (`Finding.IsPlain`). For the lines of scripts this is left to the parser
(`Files.NumbersLines`).

Results:
- `ensures_diffCheckers`, `ensures_mergeRequestCheckers`: what runs of checkers ensure;
- `ensures_ofCheckout`, `ensures_ofMergeRequest`: what analyses ensure;
- `writesPlain_of_diffCheckers`, `writesPlain_branchName`: the checkers of this library write plain findings.
-/
import ChangeLint.Proofs.Analysis.Validated
import ChangeLint.Proofs.Ensures
import ChangeLint.Proofs.Finding.Record
import ChangeLint.Terminal

namespace ChangeLint

open Act (Ensures)

variable {P : Finding → Prop} {ι : Type} {c : Commands} {r : Repository}

/-- all findings that a checker may write have a property, and it takes no step on a connection -/
def Checker.Writes (P : Finding → Prop) (k : Checker ι) : Prop :=
  ∀ input, Ensures (k.attempt input).act fun found => ∀ fs ∈ found, ∀ f ∈ fs, P f

/-- an attempt that is due at once is what it does -/
theorem Attempt.ensures_now {act : Act (List Finding)} (h : Ensures act fun fs => ∀ f ∈ fs, P f) :
    Ensures (Attempt.now act).act fun found => ∀ fs ∈ found, ∀ f ∈ fs, P f :=
  h.bind fun _ hfs => .pure fun _ hgs => Option.some.inj hgs ▸ hfs

namespace Run

variable {es : List Entrant} {t : Rat}

/-! ## Runs of checkers -/

/-- what is collected is what entrants ended with -/
theorem mem_of_collect {found : List (Option (List Finding))} (h : collect es = .ok found) :
    ∀ x ∈ found, ∃ e ∈ es, e.ending = .ok x := by
  induction es generalizing found with
  | nil =>
    cases h
    exact nofun
  | cons e es ih =>
    rw [collect] at h
    cases hend : e.ending with
    | error f =>
      rw [hend] at h
      cases h
    | ok y =>
      rw [hend] at h
      obtain ⟨rest, hrest, rfl⟩ := map_eq_ok h
      refine List.forall_mem_cons.2 ⟨⟨e, List.mem_cons_self, hend⟩, fun x hx => ?_⟩
      obtain ⟨e', he', hx⟩ := ih hrest x hx
      exact ⟨e', List.mem_cons_of_mem e he', hx⟩

/-- what entrants do until a time takes no step, if they take none -/
theorem signals_traceUntil (h : ∀ e ∈ es, e.attempt.act.signals = []) : (traceUntil t es).filterMap Event.signal? = [] := by
  rw [traceUntil, List.filterMap_flatMap, List.flatMap_eq_nil_iff]
  intro e he
  exact h e (List.mem_filter.1 ((List.mergeSort_perm _ _).mem_iff.1 he)).1

theorem ensures_settle (h : ∀ e ∈ es, Ensures e.attempt.act fun found => ∀ fs ∈ found, ∀ f ∈ fs, P f) (t : Rat) :
    Ensures (settle es t) fun found => ∀ fs, some fs ∈ found → ∀ f ∈ fs, P f := by
  have htrace := @signals_traceUntil es t fun e he => (h e he).signals
  unfold settle
  dsimp only
  split
  · exact ⟨htrace, nofun⟩
  · split
    · exact ⟨by simp [Act.signals, List.filterMap_append, htrace, Event.signal?], nofun⟩
    · refine ⟨htrace, fun found hfound fs hfs => ?_⟩
      obtain ⟨e, he, hend⟩ := mem_of_collect hfound _ hfs
      exact (h e he).result _ hend fs rfl

theorem ensures_entrants {checkers : List (Checker ι)} (h : ∀ k ∈ checkers, k.Writes P) (input : ι) :
    ∀ e ∈ entrants checkers input, Ensures e.attempt.act fun found => ∀ fs ∈ found, ∀ f ∈ fs, P f := by
  intro e he
  obtain ⟨k, hk, rfl⟩ := List.mem_map.1 he
  exact h k hk input

theorem ensures_joinNoted {found : List (Datum × Option (List Finding))}
    (h : ∀ x ∈ found, ∀ fs ∈ x.2, ∀ f ∈ fs, P f) : Ensures (joinNoted found) fun fs => ∀ f ∈ fs, P f := by
  induction found with
  | nil => exact .pure fun _ hf => nomatch hf
  | cons x found ih =>
    obtain ⟨hx, hrest⟩ := List.forall_mem_cons.1 h
    obtain ⟨name, fs⟩ := x
    cases fs with
    | none => exact .fail _ _
    | some fs =>
      refine (Ensures.note _ _).after fun _ => (ih hrest).bind fun more hmore => .pure ?_
      exact List.forall_mem_append.2 ⟨hx fs rfl, hmore⟩

theorem ensures_join {found : List (Option (List Finding))} (h : ∀ fs, some fs ∈ found → ∀ f ∈ fs, P f) :
    Ensures (join found) fun fs => ∀ f ∈ fs, P f := by
  induction found with
  | nil => exact .pure fun _ hf => nomatch hf
  | cons x found ih =>
    cases x with
    | none => exact .fail _ _
    | some fs =>
      refine (ih fun gs hgs => h gs (List.mem_cons_of_mem _ hgs)).bind fun more hmore => .pure ?_
      exact List.forall_mem_append.2 ⟨h fs List.mem_cons_self, hmore⟩

/-- **A run of diff checkers finds what they write** -/
theorem ensures_diffCheckers {checkers : List (Checker Snapshot)} (h : ∀ k ∈ checkers, k.Writes P) (w : Snapshot) :
    Ensures (diffCheckers none checkers w).act fun fs => ∀ f ∈ fs, P f := by
  unfold diffCheckers
  dsimp only
  split
  · exact .fail _ _
  · refine (Ensures.note _ _).after fun _ => (ensures_settle (ensures_entrants h w) _).bind fun found hfound => ?_
    apply ensures_joinNoted
    rintro ⟨name, x⟩ hx fs rfl
    exact hfound fs (List.of_mem_zip hx).2

/-- **A run of merge-request checkers finds what they write** -/
theorem ensures_mergeRequestCheckers {checkers : List (Checker MergeRequest)} (h : ∀ k ∈ checkers, k.Writes P)
    (m : MergeRequest) : Ensures (mergeRequestCheckers none checkers m).act fun fs => ∀ f ∈ fs, P f :=
  (ensures_settle (ensures_entrants h m) _).bind fun _ => ensures_join

end Run

/-! ## Changes and diffs -/

namespace Git

theorem ensures_status (argv : List String) : Ensures (status c argv) fun _ => True :=
  (Ensures.run c argv).after fun _ => (Ensures.notes _).after fun _ => .pure trivial

theorem ensures_stagedDiff (path : String) : Ensures (stagedDiff c path) fun _ => True :=
  (Ensures.run c _).after fun _ => .pure trivial

theorem ensures_branchDiff (target source path : String) : Ensures (branchDiff c r target source path) fun _ => True := by
  refine (Ensures.run c _).after fun raw => ?_
  split
  · exact ensures_stagedDiff path
  · exact .pure trivial

theorem ensures_currentBranch : Ensures (currentBranch c r) fun _ => True := by
  refine ((Ensures.run c _).handle fun e => .fail _ _).after fun raw => ?_
  dsimp only
  split
  · exact .fail _ _
  · exact .pure trivial

end Git

theorem Diff.ensures_read (framed : String) : Ensures (Diff.read framed) fun _ => True := by
  refine (Ensures.notes _).after fun _ => ?_
  split
  · exact .fail _ _
  · exact (Ensures.note _ _).after fun _ => .pure trivial

namespace Relevance

/-- what counts was there before -/
theorem mem_of_kept {diffs : List FileDiff} {fs ks : List Finding} (h : kept diffs fs = .ok ks) : ∀ f ∈ ks, f ∈ fs := by
  induction fs generalizing ks with
  | nil =>
    cases h
    exact nofun
  | cons f fs ih =>
    obtain ⟨keep, -, h⟩ := bind_eq_ok h
    obtain ⟨rest, hrest, h⟩ := bind_eq_ok h
    cases h
    have hmem : ∀ g ∈ rest, g ∈ f :: fs := fun g hg => List.mem_cons_of_mem f (ih hrest g hg)
    split
    · exact List.forall_mem_cons.2 ⟨List.mem_cons_self, hmem⟩
    · exact hmem

theorem ensures_filter {fs : List Finding} (h : ∀ f ∈ fs, P f) (diffs : List FileDiff) :
    Ensures (filter diffs fs) fun ks => ∀ f ∈ ks, P f := by
  refine Ensures.bind (.ofExcept fun ks hks => mem_of_kept hks) fun ks hmem => ?_
  have hks : ∀ f ∈ ks, P f := fun f hf => h f (hmem f hf)
  dsimp only
  split
  · exact .pure hks
  · exact (Ensures.note _ _).after fun _ => .pure hks

end Relevance

/-! ## Analyses -/

namespace Analysis

variable {k : Comparison} {s : Settings} {directory : String} {checkers : List (Checker Snapshot)}
  {requestCheckers : List (Checker MergeRequest)}

theorem ensures_statuses : Ensures (statuses c r k) fun _ => True := by
  -- one list of paths, before what is done with it
  have hstatus (argv : List String) {next : List String → Act (List String)} (h : ∀ ts, Ensures (next ts) fun _ => True) :
      Ensures (Git.status c argv >>= fun t => pure [t] >>= next) fun _ => True :=
    (Git.ensures_status argv).after fun t => h [t]
  have hjoined (ts ts' : List String) : Ensures (pure (ts ++ ts') : Act (List String)) fun _ => True := .pure trivial
  unfold statuses
  cases k.diffSource with
  | branch =>
    simp only [reduceCtorEq, ite_false, ite_true]
    exact hstatus _ (hjoined [])
  | staged =>
    simp only [reduceCtorEq, ite_false, ite_true]
    exact hstatus _ fun staged => hjoined staged []
  | combined =>
    simp only [reduceCtorEq, ite_false]
    exact hstatus _ fun staged => hstatus _ (hjoined staged)

theorem ensures_changes : Ensures (changes c r k) fun _ => True :=
  ensures_statuses.after fun _ => (Ensures.notes _).after fun _ => (Ensures.note _ _).after fun _ => .pure trivial

theorem ensures_diff (path : String) : Ensures (diff c r k path) fun _ => True := by
  have hframed : Ensures (framedDiff c r k path) fun _ => True := by
    unfold framedDiff
    split
    · exact Git.ensures_stagedDiff path
    · exact Git.ensures_branchDiff _ _ path
  exact hframed.after Diff.ensures_read

theorem ensures_diffs (excludes : List String) (changed : ChangeSet) :
    Ensures (diffs c r k excludes changed) fun _ => True := by
  have hpaths : Ensures (Exclusion.apply excludes changed.diffablePaths) fun _ => True :=
    (Ensures.notes _).after fun _ => .pure trivial
  exact hpaths.after fun paths => (Ensures.each fun path _ => ensures_diff path).after fun _ => .pure trivial

theorem ensures_findings (h : ∀ k ∈ checkers, k.Writes P) (excludes : List String) :
    Ensures (findings c r k checkers excludes) fun fs => ∀ f ∈ fs, P f :=
  ensures_changes.after fun _ => (ensures_diffs _ _).after fun _ =>
    (Run.ensures_diffCheckers h _).bind fun _ hfound => Relevance.ensures_filter hfound _

/-- **The analysis of the checked-out branch finds what its checkers write** -/
theorem ensures_ofCheckout [Interpreter] (h : ∀ k ∈ checkers, k.Writes P) :
    Ensures (ofCheckout c s directory checkers) fun fs => ∀ f ∈ fs, P f :=
  Git.ensures_currentBranch.after fun _ => (Ensures.note _ _).after fun _ =>
    (ensures_findings h _).bind fun _ hfs => (Ensures.ofExcept fun _ _ => trivial).after fun _ =>
      (Ensures.notes _).after fun _ => .pure hfs

/-- **The analysis of a merge request finds what its checkers write** -/
theorem ensures_ofMergeRequest {m : MergeRequest} (h : ∀ k ∈ checkers, k.Writes P)
    (hrequest : ∀ k ∈ requestCheckers, k.Writes P) :
    Ensures (ofMergeRequest c s directory m checkers requestCheckers) fun fs => ∀ f ∈ fs, P f :=
  (Run.ensures_mergeRequestCheckers hrequest m).bind fun _ hfirst => (Ensures.note _ _).after fun _ =>
    (ensures_findings h _).bind fun _ hfs => .pure (List.forall_mem_append.2 ⟨hfirst, hfs⟩)

end Analysis

/-! ## Checkers -/

/-- true of findings whose fields are texts, whose title stands for itself in markup, and whose line is not too long -/
structure Finding.IsPlain (f : Finding) : Prop where
  sendable : f.IsSendable
  bare : Terminal.IsBare f.source.title.plain

/-- no script has so many lines that the number of one with a remark is too long to be written -/
def Files.NumbersLines [Interpreter] (files : Files) : Prop :=
  ∀ path bytes text remarks, files path = .bytes bytes → Text.Utf8.decode bytes = .ok text →
    Script.undocumented (Text.plainLines text) = .ok remarks → ∀ r ∈ remarks, Number.isTooLong (r.1 : Int) = false

namespace Checker

open Finding (IsPlain)

/-- findings of several files -/
theorem ensures_flatten {α : Type} {check : α → Act (List Finding)} {as : List α}
    (h : ∀ a, Ensures (check a) fun fs => ∀ f ∈ fs, P f) :
    Ensures (Act.each check as >>= fun found => pure found.flatten) fun fs => ∀ f ∈ fs, P f := by
  refine (Ensures.each fun a _ => h a).bind fun found hfound => .pure fun f hf => ?_
  obtain ⟨fs, hfs, hf⟩ := List.mem_flatten.1 hf
  exact hfound fs hfs f hf

theorem writesPlain_image (extensions : List String) : (Image.checker extensions).Writes IsPlain := by
  have hbare : Terminal.IsBare "ImageChecker" := by decide
  refine fun w => Attempt.ensures_now (.pure fun f hf => ?_)
  obtain ⟨path, -, rfl⟩ := List.mem_map.1 hf
  exact ⟨⟨⟨rfl, rfl, rfl, rfl⟩, nofun⟩, hbare⟩

theorem writesPlain_branchName : BranchName.checker.Writes IsPlain := by
  have hbare : Terminal.IsBare "MergeRequestChecker" := by decide
  refine fun m => Attempt.ensures_now (.pure fun f hf => ?_)
  unfold BranchName.findings at hf
  split at hf
  · obtain rfl := List.mem_singleton.1 hf
    exact ⟨⟨⟨rfl, rfl, rfl, trivial⟩, nofun⟩, hbare⟩
  · cases hf

/-- a finding on a line of a file is plain if its number is not too long -/
theorem isPlain_line {path message title description : String} {n : Int} {kind : LineKind} {severity : Severity}
    (hshort : Number.isTooLong n = false) (hbare : Terminal.IsBare title) :
    (Finding.line path (.int n) kind message ⟨.text title, .text description⟩ severity).IsPlain := by
  refine ⟨⟨⟨rfl, rfl, rfl, rfl, rfl⟩, fun number hnumber => ?_⟩, hbare⟩
  cases hnumber
  exact hshort

theorem isPlain_of_remark {d : FileDiff} {x : Script.Remark} {f : Finding} (h : Documentation.finding? d x = some f)
    (hshort : Number.isTooLong (x.1 : Int) = false) : f.IsPlain := by
  obtain ⟨l, -, rfl⟩ := Option.map_eq_some_iff.1 h
  exact isPlain_line hshort (by decide)

/-- a script that is read has lines that can be numbered -/
theorem ensures_readScript [Interpreter] (k : Documentation) (hfiles : k.files.NumbersLines) (name : String) :
    Ensures (k.readScript name) fun found => ∀ text ∈ found, ∀ remarks, Script.undocumented text = .ok remarks →
      ∀ r ∈ remarks, Number.isTooLong (r.1 : Int) = false := by
  have hunreadable (path reason : String) {P : Option (List Char) → Prop} (h : P none) :
      Ensures (Documentation.unreadable path reason) P :=
    (Ensures.note _ _).after fun _ => .pure h
  unfold Documentation.readScript
  dsimp only
  split
  · exact .fail _ _
  · split
    · exact hunreadable _ _ nofun
    · rename_i bytes hbytes
      split
      · exact hunreadable _ _ nofun
      · rename_i text htext
        refine .pure fun _ h => ?_
        cases h
        exact fun remarks => hfiles _ bytes text remarks hbytes htext

theorem ensures_checkScript [Interpreter] (d : FileDiff) {text : List Char} (hlines : ∀ remarks,
    Script.undocumented text = .ok remarks → ∀ r ∈ remarks, Number.isTooLong (r.1 : Int) = false) :
    Ensures (Documentation.checkScript d text) fun fs => ∀ f ∈ fs, f.IsPlain := by
  unfold Documentation.checkScript
  split
  · exact (Ensures.note _ _).after fun _ => .pure nofun
  · exact .fail _ _
  · rename_i remarks hremarks
    refine .pure fun f hf => ?_
    obtain ⟨x, hx, hfinding⟩ := List.mem_filterMap.1 hf
    exact isPlain_of_remark hfinding (hlines remarks hremarks x hx)

theorem writesPlain_documentation [Interpreter] (k : Documentation) (hfiles : k.files.NumbersLines) :
    k.checker.Writes IsPlain := by
  have hfile (d : FileDiff) : Ensures (k.checkFile d) fun fs => ∀ f ∈ fs, f.IsPlain := by
    refine (ensures_readScript k hfiles d.newPath).bind fun found hfound => ?_
    cases found with
    | none => exact .pure nofun
    | some text => exact ensures_checkScript d (hfound text rfl)
  exact fun w => Attempt.ensures_now (ensures_flatten hfile)

theorem isPlain_of_findings {k : Formatter} {d : FileDiff} {output : List String} {fs : List Finding}
    (h : k.findings d output = .ok fs) : ∀ f ∈ fs, f.IsPlain := by
  intro f hf
  obtain ⟨text, -, hmatch⟩ := Formatter.exists_match_of_mem h hf
  obtain ⟨n, message, hshort, rfl⟩ := Formatter.eq_line_of_match hmatch
  exact isPlain_line hshort (by decide)

theorem writesPlain_formatter (k : Formatter) (c : Commands) : (k.checker c).Writes IsPlain := by
  have hfile (d : FileDiff) : Ensures (k.checkFile c d) fun fs => ∀ f ∈ fs, f.IsPlain := by
    refine (Ensures.stream c _).after fun output => ?_
    refine Ensures.bind (.ofExcept fun fs hfs => isPlain_of_findings hfs) fun fs hfs => ?_
    exact (Ensures.note _ _).after fun _ => .pure hfs
  exact fun w => Attempt.ensures_now (ensures_flatten hfile)

end Checker

namespace Analysis

variable [Interpreter] {s : Settings} {directory : String} {files : Files} {checkers : List (Checker Snapshot)}

/-- checkers that can be made are those of a registry -/
theorem exists_registry (h : diffCheckers s directory files c = .ok checkers) :
    ∃ linters, checkers = registry s directory files c linters := by
  unfold diffCheckers at h
  dsimp only at h
  split at h
  · obtain ⟨linter, -, h⟩ := bind_eq_ok h
    exact ⟨[linter], (Except.ok.inj h).symm⟩
  · exact ⟨[], (Except.ok.inj h).symm⟩

/-- **The diff checkers that settings ask for write plain findings** -/
theorem writesPlain_of_diffCheckers (hfiles : files.NumbersLines) (h : diffCheckers s directory files c = .ok checkers) :
    ∀ k ∈ checkers, k.Writes Finding.IsPlain := by
  obtain ⟨linters, rfl⟩ := exists_registry h
  refine List.forall_mem_cons.2 ⟨Checker.writesPlain_image _, List.forall_mem_append.2 ⟨?documentation, ?linters⟩⟩
  case documentation =>
    split
    · exact List.forall_mem_singleton.2 (Checker.writesPlain_documentation _ hfiles)
    · exact nofun
  case linters =>
    rintro k hk
    obtain ⟨linter, -, rfl⟩ := List.mem_map.1 hk
    exact Checker.writesPlain_formatter linter c

end Analysis

end ChangeLint
