/-
Priority of the sources of settings.

`priority`: when all files that are there load, the environment can be read and no unknown name is defined, the settings are
made from the chosen values, and every one of them is the chosen value itself, whole. What a higher source defines hides
what a lower one says, be it well typed or not. The least unknown name is reported with its value, and before that the first
variable that cannot be read, whatever the caller overrides. If the working directory is the home directory, it makes no
difference that their file is one.

A value with an integer that is too long to be written out cannot be reported: `longUnknown_unreported`.
-/
import ChangeLint.Interpreter.Usual
import ChangeLint.Proofs.Settings.Layers
import ChangeLint.Proofs.Text.Utf8
import Mathlib

namespace ChangeLint.Settings

open Datum (Keyed)

/-! ## Values -/

variable {value : String → Datum} {d : Datum}

theorem textOf_eq (h : isText d = true) : .text (textOf d) = d := by
  cases d <;> first | rfl | cases h

theorem textsOf_eq (h : Shape.texts.fits d = true) : texts (textsOf d) = d := by
  cases d with
  | list ds =>
    have hall : ∀ x ∈ ds, isText x = true := List.all_eq_true.1 h
    have hmap : ds.map (Datum.text ∘ textOf) = ds.map id := List.map_congr_left fun x hx => textOf_eq (hall x hx)
    rw [textsOf, texts, List.map_map, hmap, List.map_id]
  | _ => cases h

theorem truthOf_eq (h : Shape.truth.fits d = true) : .bool (truthOf d) = d := by
  cases d <;> first | rfl | cases h

theorem intOf_eq (h : Shape.integer.fits d = true) : .int (intOf d) = d := by
  cases d <;> first | rfl | cases h

theorem secondsOf_eq (h : Shape.number.fits d = true) : (secondsOf d).datum = d := by
  cases d <;> first | rfl | cases h

theorem word_of_diffSource {text : String} {x : DiffSource} (h : DiffSource.ofWord? text = some x) : x.word = text := by
  simpa using List.find?_some h

theorem word_of_verbosity {text : String} {x : Verbosity} (h : Verbosity.ofWord? text = some x) : x.word = text := by
  simpa using List.find?_some h

section

variable [Interpreter]

theorem reject_ne_ok {α : Type} {key reason : String} {x : α} : reject key d reason ≠ .ok x := by
  rw [reject_eq]
  nofun

theorem fits_of_checkShapes {fs : List Field} (h : checkShapes value fs = .ok ()) :
    ∀ f ∈ fs, f.shape.fits (value f.name) = true := by
  induction fs with
  | nil => nofun
  | cons f fs ih =>
    rw [checkShapes] at h
    cases hfits : f.shape.fits (value f.name) with
    | false =>
      simp only [Shape.problem?, hfits, Bool.false_eq_true, if_false] at h
      exact absurd h reject_ne_ok
    | true =>
      simp only [Shape.problem?, hfits, if_true] at h
      intro g hg
      rcases List.mem_cons.1 hg with rfl | hg
      · exact hfits
      · exact ih h g hg

theorem holds_of_demand {holds : Bool} {key reason : String} (h : demand holds key d reason = .ok ()) : holds = true := by
  cases holds with
  | true => rfl
  | false =>
    rw [demand, if_neg Bool.false_ne_true] at h
    exact absurd h reject_ne_ok

/-- **Every setting is its value**, whole and unchanged -/
theorem members_of_ofValues {settings : Settings} (h : ofValues value = .ok settings) :
    settings.members = fields.map fun f => (f.name, value f.name) := by
  unfold ofValues at h
  obtain ⟨⟨⟩, hshapes, h⟩ := bind_eq_ok h
  obtain ⟨⟨⟩, -, h⟩ := bind_eq_ok h
  dsimp only at h
  split at h
  · rename_i source hsource
    obtain ⟨⟨⟩, hport, h⟩ := bind_eq_ok h
    obtain ⟨⟨⟩, -, h⟩ := bind_eq_ok h
    split at h
    · rename_i verbosity hverbosity
      obtain ⟨⟨⟩, -, h⟩ := bind_eq_ok h
      obtain ⟨⟨⟩, -, h⟩ := bind_eq_ok h
      cases h
      have hfits := fits_of_checkShapes hshapes
      simp only [fields, List.forall_mem_cons] at hfits
      obtain ⟨h1, h2, h3, h4, h5, h6, h7, h8, h9, h10, h11, h12, h13, h14, -⟩ := hfits
      have hpositive : ((intOf (value "transport_port")).toNat : Int) = intOf (value "transport_port") := by
        have hbounds := holds_of_demand hport
        simp only [Bool.and_eq_true, decide_eq_true_eq] at hbounds
        omega
      simp only [members, fields, List.map_cons, List.map_nil, word_of_diffSource hsource, word_of_verbosity hverbosity,
        hpositive, textOf_eq h1, textOf_eq h2, textsOf_eq h3, textsOf_eq h4, textOf_eq h5, textsOf_eq h6, textsOf_eq h7,
        textOf_eq h8, truthOf_eq h9, textsOf_eq h10, textOf_eq h11, intOf_eq h12, secondsOf_eq h13, textOf_eq h14]
    · exact absurd h reject_ne_ok
  · exact absurd h reject_ne_ok

end

/-! ## Layers that hide others -/

/-- layers say the same of a name as others, or a layer above them defines it -/
def Hides (ls ls' : List (String → Option Datum)) (k : String) : Prop :=
  ∀ i : Nat, (ls'[i]?.bind fun l => l k) = (ls[i]?.bind fun l => l k) ∨ ∃ l ∈ ls.take i, (l k).isSome = true

theorem firstDefined_of_hides {ls ls' : List (String → Option Datum)} {k : String} (hlength : ls'.length = ls.length)
    (h : Hides ls ls' k) : firstDefined ls' k = firstDefined ls k := by
  induction ls generalizing ls' with
  | nil => rw [List.length_eq_zero_iff.1 hlength]
  | cons l ls ih =>
    obtain ⟨l', ls', rfl⟩ := List.exists_cons_of_length_eq_add_one hlength
    have hhead : l' k = l k := by
      rcases h 0 with h0 | ⟨_, hnil, -⟩
      · exact h0
      · cases hnil
    simp only [firstDefined, List.findSome?_cons, hhead]
    cases hl : l k with
    | some d => rfl
    | none =>
      refine ih (Nat.succ.inj hlength) fun i => ?_
      rcases h (i + 1) with hi | ⟨m, hm, hsome⟩
      · exact .inl hi
      · rcases List.mem_cons.1 hm with rfl | hm
        · rw [hl] at hsome
          cases hsome
        · exact .inr ⟨m, hm, hsome⟩

/-! ## What is loaded -/

variable {s s' : Sources} {t t' : Tables}

section

variable [Interpreter]

/-- the first variable that cannot be read is reported -/
theorem load_unparseable (h : Loads s t) (henv : ¬ EnvironmentParses s.environment) :
    ∃ f ∈ fields, ∃ text e, s.environment.lookup (variableOf f.name) = some text ∧ f.shape.parse text = .error e ∧
      ofEnvironment s.environment fields =
        .error (.fault (.valueRejected f.name (.text text) (variableOf f.name ++ ": " ++ e.message))) ∧
      load s = .error (.fault (.valueRejected f.name (.text text) (variableOf f.name ++ ": " ++ e.message))) := by
  have hbad : ∃ f ∈ fields, ∃ text e,
      s.environment.lookup (variableOf f.name) = some text ∧ f.shape.parse text = .error e := by
    by_contra hgood
    refine henv fun f hf text hlookup => ?_
    cases hparse : f.shape.parse text with
    | ok d => exact ⟨d, rfl⟩
    | error e => exact absurd ⟨f, hf, text, e, hlookup, hparse⟩ hgood
  obtain ⟨f, hf, text, e, hlookup, hparse, herror⟩ := ofEnvironment_unparseable hbad
  refine ⟨f, hf, text, e, hlookup, hparse, herror, ?_⟩
  rw [load, merge_of_loads h, herror]
  rfl

/-- what is loaded depends on the files and the overrides only by what is defined together -/
theorem load_congr (h : Loads s t) (h' : Loads s' t') (hkeys : Keyed s.overrides) (hkeys' : Keyed s'.overrides)
    (henv : s'.environment = s.environment) (hsame : ∀ k, defined? s' t' k = defined? s t k) : load s' = load s := by
  by_cases hparses : EnvironmentParses s.environment
  · obtain ⟨ms, hms, hget⟩ := exists_merge h hkeys hparses
    obtain ⟨ms', hms', hget'⟩ := exists_merge h' hkeys' (henv ▸ hparses)
    rw [load, load, hms, hms']
    exact ofMerged_congr fun k => by rw [hget, hget', hsame]
  · obtain ⟨f, -, text, e, -, -, herror, hload⟩ := load_unparseable h hparses
    rw [hload, load, merge_of_loads h', henv, herror]
    rfl

end

/-- sources whose names are all known define known names only -/
theorem known_of_keys (hoverrides : ∀ k ∈ s.overrides.map Prod.fst, k = "verbose" ∨ k = "quiet" ∨ k ∈ names)
    (hfiles : ∀ k ∈ (t.explicit ++ t.project ++ t.home).map Prod.fst, k ∈ names) (n : String)
    (h : (defined? s t n).isSome = true) : n ∈ names := by
  obtain ⟨l, hl, hn⟩ := List.findSome?_isSome_iff.1 h
  have hfile : ∀ {ms : List (String × Datum)}, (∀ m ∈ ms, m ∈ t.explicit ++ t.project ++ t.home) →
      (Datum.get? n ms).isSome = true → n ∈ names := by
    intro ms hsub hsome
    obtain ⟨m, hm, hkey⟩ := List.mem_map.1 (Datum.isSome_get?_iff.1 hsome)
    exact hfiles n (hkey ▸ List.mem_map_of_mem (hsub m hm))
  simp only [layers, List.mem_cons, List.not_mem_nil, or_false] at hl
  rcases hl with rfl | rfl | rfl | rfl | rfl
  · rcases mem_of_overridden hn with hn | ⟨hmem, hverbose, hquiet⟩
    · exact hn
    · exact ((hoverrides n hmem).resolve_left hverbose).resolve_left hquiet
  · exact mem_of_inEnvironment hn
  · exact hfile (fun m hm => by simp [hm]) hn
  · exact hfile (fun m hm => by simp [hm]) hn
  · exact hfile (fun m hm => by simp [hm]) hn

section

variable [Interpreter]

/-- names that are all known let the settings be made from the chosen values -/
theorem load_known (h : Loads s t) (hkeys : Keyed s.overrides) (henv : EnvironmentParses s.environment)
    (hknown : ∀ n, (defined? s t n).isSome = true → n ∈ names) : load s = ofValues (chosen s t) := by
  obtain ⟨ms, hms, hget⟩ := exists_merge h hkeys henv
  have hnone : leastName ((ms.map (·.1)).filter fun n => !names.contains n) = none := by
    refine leastName_eq_none.2 (List.eq_nil_iff_forall_not_mem.2 fun n hn => ?_)
    obtain ⟨hsome, hunknown⟩ := mem_unknown_iff.1 hn
    exact hunknown (hknown n (hget n ▸ hsome))
  have hvalues : valueIn ms = chosen s t := by
    funext n
    rw [valueIn, chosen, hget]
    cases defined? s t n <;> rfl
  rw [load, hms, ← hvalues]
  simp only [bind, Except.bind, ofMerged, hnone]

/-- the least unknown name is reported with its value -/
theorem load_unknown (h : Loads s t) (hkeys : Keyed s.overrides) (henv : EnvironmentParses s.environment)
    (hunknown : ∃ n, n ∉ names ∧ (defined? s t n).isSome = true) :
    ∃ n d, n ∉ names ∧ defined? s t n = some d ∧ (∀ m ∉ names, (defined? s t m).isSome = true → ¬ m < n) ∧
      load s = .error (rejection n d "unknown configuration key") := by
  obtain ⟨ms, hms, hget⟩ := exists_merge h hkeys henv
  cases hleast : leastName ((ms.map (·.1)).filter fun n => !names.contains n) with
  | none =>
    obtain ⟨n, hn, hsome⟩ := hunknown
    have hmem := mem_unknown_iff.2 ⟨(hget n).symm ▸ hsome, hn⟩
    rw [leastName_eq_none.1 hleast] at hmem
    exact absurd hmem List.not_mem_nil
  | some n =>
    obtain ⟨hmem, hmin⟩ := leastName_spec hleast
    obtain ⟨hsome, hn⟩ := mem_unknown_iff.1 hmem
    rw [hget] at hsome
    obtain ⟨d, hd⟩ := Option.isSome_iff_exists.1 hsome
    refine ⟨n, d, hn, hd, fun m hm hdefined => hmin m (mem_unknown_iff.2 ⟨(hget m).symm ▸ hdefined, hm⟩), ?_⟩
    rw [load, hms]
    simp only [bind, Except.bind, ofMerged, hleast, hget, hd, Option.getD_some, reject_eq]

/-! ## One directory -/

/-- **A file that is read twice counts once**, so a working directory that is the home directory changes nothing -/
theorem load_one_directory (s : Sources) (path : String) :
    load { s with project := ⟨path, s.home.content⟩ } = load { s with project := s.home } := by
  unfold load merge
  by_cases hpath : path = s.home.path
  · simp only [hpath]
  · simp only [if_neg hpath, if_true]
    cases hhome : ofOptional s.home with
    | error e => rfl
    | ok home =>
      have hprovides : Provides s.home.content home := provides_of_ofOptional hhome
      rw [ofOptional_of_provides hprovides]
      cases ofExplicit s.explicit with
      | error e => rfl
      | ok explicit =>
        cases ofEnvironment s.environment fields with
        | error e => rfl
        | ok environment =>
          have hsame : ∀ k, Datum.get? k (update home home) = Datum.get? k (update home []) := by
            intro k
            rw [get?_update (keyed_of_provides hprovides), Option.or_self]
            rfl
          exact ofMerged_congr fun k =>
            get?_update_congr (get?_update_congr (get?_update_congr hsame explicit) environment) _ k

/-- a working directory that is the home directory is as good as one without a file -/
theorem load_no_project (s : Sources) (path : String) :
    load { s with project := ⟨path, .problem .notFound⟩ } = load { s with project := s.home } := by
  unfold load merge
  by_cases hpath : path = s.home.path
  · simp only [hpath, if_true]
  · have hmissing : ofOptional ⟨path, .problem .notFound⟩ = .ok [] := rfl
    simp only [if_neg hpath, if_true, hmissing]
    rfl

/-! ## Priority -/

/-- what the sources of settings come to, when all files that are there load -/
structure Prioritized (s : Sources) (t : Tables) : Prop where
  /-- every setting is the value of the first source that defines it, whole -/
  chosen : EnvironmentParses s.environment → (∀ n, (defined? s t n).isSome = true → n ∈ names) →
    load s = ofValues (chosen s t) ∧
      ∀ settings, load s = .ok settings → settings.members = fields.map fun f => (f.name, Settings.chosen s t f.name)
  /-- what lies under something else makes no difference, whatever it is -/
  shadowed : ∀ s' t', Loads s' t' → s'.environment = s.environment → s'.overrides = s.overrides →
    (∀ k, Hides (layers s t) (layers s' t') k) → load s' = load s
  /-- the least name that is unknown is reported with its value, if that can be written out -/
  unknown : EnvironmentParses s.environment → (∃ n, n ∉ names ∧ (defined? s t n).isSome = true) →
    ∃ n d, n ∉ names ∧ defined? s t n = some d ∧ (∀ m ∉ names, (defined? s t m).isSome = true → ¬ m < n) ∧
      load s = .error (rejection n d "unknown configuration key") ∧
      (CanBeWritten d → load s = .error (.fault (.valueRejected n d "unknown configuration key")))
  /-- a variable that cannot be read is reported, whatever is overridden -/
  unparseable : ¬ EnvironmentParses s.environment →
    ∃ f ∈ fields, ∃ text e, s.environment.lookup (variableOf f.name) = some text ∧ f.shape.parse text = .error e ∧
      load s = .error (.fault (.valueRejected f.name (.text text) (variableOf f.name ++ ": " ++ e.message)))

/-- **The source with the highest priority wins**, setting by setting -/
theorem priority (s : Sources) (hkeys : Keyed s.overrides) :
    (∀ t, Loads s t → Prioritized s t) ∧
      ∀ path, load { s with project := ⟨path, s.home.content⟩ } = load { s with project := s.home } ∧
        load { s with project := ⟨path, .problem .notFound⟩ } = load { s with project := s.home } := by
  refine ⟨fun t h => ⟨?chosen, ?shadowed, ?unknown, ?unparseable⟩,
    fun path => ⟨load_one_directory s path, load_no_project s path⟩⟩
  case chosen =>
    intro henv hknown
    have hload := load_known h hkeys henv hknown
    exact ⟨hload, fun settings hok => members_of_ofValues (hload ▸ hok)⟩
  case shadowed =>
    intro s' t' h' henv hoverrides hhides
    exact load_congr h h' hkeys (hoverrides ▸ hkeys) henv fun k => firstDefined_of_hides rfl (hhides k)
  case unknown =>
    intro henv hunknown
    obtain ⟨n, d, hn, hd, hleast, hload⟩ := load_unknown h hkeys henv hunknown
    exact ⟨n, d, hn, hd, hleast, hload, fun hwritten => rejection_of_canBeWritten hwritten n _ ▸ hload⟩
  case unparseable =>
    intro henv
    obtain ⟨f, hf, text, e, hlookup, hparse, -, hload⟩ := load_unparseable h henv
    exact ⟨f, hf, text, e, hlookup, hparse, hload⟩

end

/-- a file with some text -/
def fileOf (path text : String) : Source := ⟨path, .bytes (Text.Utf8.encode text.toList)⟩

/-- settings from everywhere: at home the verbosity is no word -/
def layered : Sources where
  home := fileOf "/home/.code-styler.toml" "verbosity = 3\n"
  project := fileOf "/work/.code-styler.toml" "[code-styler]\nsend_timeout_seconds = 5\n"
  explicit := none
  environment := [("CODE_STYLER_TRANSPORT_PORT", "80")]
  overrides := [("verbose", .bool true), ("target_branch", .null)]
  whole := by decide

/-- what the files of `layered` say -/
def layeredTables : Tables where
  home := [("verbosity", .int 3)]
  project := [("send_timeout_seconds", .int 5)]
  explicit := []

theorem holds_fileOf [Interpreter] {path text : String} {document : List (String × Datum)}
    (hread : Toml.read (Toml.plainLines text.toList) = .ok document) :
    Holds (fileOf path text).content (ofDocument document) :=
  holds_ofDocument (Text.Utf8.decode_encode text.toList) hread

theorem loads_layered : @Loads .usual layered layeredTables := by
  let : Interpreter := .usual
  have hhome : Toml.read (Toml.plainLines "verbosity = 3\n".toList) = .ok [("verbosity", .int 3)] := by cbv
  have hproject : Toml.read (Toml.plainLines "[code-styler]\nsend_timeout_seconds = 5\n".toList) =
      .ok [("code-styler", .table [("send_timeout_seconds", .int 5)])] := by cbv
  have hhome := @holds_fileOf _ "/home/.code-styler.toml" _ _ hhome
  have hproject := @holds_fileOf _ "/work/.code-styler.toml" _ _ hproject
  exact ⟨.inr hhome, .inr hproject, rfl, by decide⟩

theorem priority_layered : letI : Interpreter := .usual
    Keyed layered.overrides ∧ Loads layered layeredTables ∧ EnvironmentParses layered.environment ∧
      (∀ n, (defined? layered layeredTables n).isSome = true → n ∈ names) ∧
      load layered = ofValues (chosen layered layeredTables) ∧
      chosen layered layeredTables "verbosity" = "verbose" ∧ chosen layered layeredTables "transport_port" = .int 80 ∧
      chosen layered layeredTables "send_timeout_seconds" = .int 5 ∧
      chosen layered layeredTables "target_branch" = "master" := by
  let : Interpreter := .usual
  have hkeys : Keyed layered.overrides := by decide
  have henv : EnvironmentParses layered.environment := by decide
  have hknown : ∀ n, (defined? layered layeredTables n).isSome = true → n ∈ names :=
    known_of_keys (by decide) (by decide)
  exact ⟨hkeys, loads_layered, henv, hknown,
    (((priority layered hkeys).1 layeredTables loads_layered).chosen henv hknown).1, rfl, rfl, rfl, rfl⟩

/-- an unknown name whose value is too long to be written out -/
def longUnknown : Sources where
  home := ⟨"/home/.code-styler.toml", .problem .notFound⟩
  project := ⟨"/work/.code-styler.toml", .problem .notFound⟩
  explicit := none
  environment := []
  overrides := [("x", .int (10 ^ Number.digitLimit))]
  whole := by simp [Datum.isWhole]

/-- the report of an unknown name is lost when its value cannot be written out -/
theorem longUnknown_unreported : letI : Interpreter := .usual
    Loads longUnknown ⟨[], [], []⟩ ∧ EnvironmentParses longUnknown.environment ∧ "x" ∉ names ∧
      defined? longUnknown ⟨[], [], []⟩ "x" = some (.int (10 ^ Number.digitLimit)) ∧
      ∀ fault, load longUnknown ≠ .error (.fault fault) := by
  let : Interpreter := .usual
  have hmerge : merge longUnknown = .ok [("x", .int (10 ^ Number.digitLimit))] := by rfl
  have hleast : leastName (["x"].filter fun n => !names.contains n) = some "x" := by rfl
  have hroom : Interpreter.unwritten? .literal (.int (10 ^ Number.digitLimit)) = none :=
    Interpreter.unwritten_shallow (Nat.zero_le _)
  have hlong : (Datum.int (10 ^ Number.digitLimit)).hasLongInt = true := by
    rw [Datum.hasLongInt, Number.isTooLong]
    -- nothing should compute the power
    generalize Number.digitLimit = limit
    rw [Int.natAbs_pow]
    exact decide_eq_true (le_refl (10 ^ limit))
  have hload : load longUnknown = .error (.tooLong .writing) := by
    rw [load, hmerge]
    simp only [bind, Except.bind, ofMerged, List.map_cons, List.map_nil, hleast, Datum.get?_cons, if_true, Option.getD_some,
      reject, hroom, hlong]
  refine ⟨⟨.inl ⟨rfl, rfl⟩, .inl ⟨rfl, rfl⟩, rfl, fun _ => rfl⟩, by decide, by decide, by rfl, fun fault => ?_⟩
  rw [hload]
  intro hfault
  cases hfault

end ChangeLint.Settings
