/-
Settings in layers.

Each source of settings is a layer: it defines some names and is silent on the others. `layers` lists them from the
overrides down to the file in the home directory, and the value of a name is that of the first layer that defines it
(`defined?`), or its default (`chosen`).

What the sources define together are the members that are merged, one source over the other (`get?_merged`). It does not
matter whether the file of the working directory is the one of the home directory, nor in which order members come
(`ofMerged_congr`).
-/
import ChangeLint.Proofs.Settings.Constraint
import ChangeLint.Proofs.Toml.Keys
import ChangeLint.Settings.Load

namespace ChangeLint.Settings

open Datum (Keyed)

/-! ## What a source defines -/

section

variable [Interpreter]

/-- the settings that a file holds: those in its table for them, if it has one, else all of its members -/
inductive Holds (content : Content) : List (String × Datum) → Prop
  | table {bytes : List UInt8} {cs : List Char} {members t : List (String × Datum)} (hbytes : content = .bytes bytes)
    (htext : Text.Utf8.decode bytes = .ok cs) (hread : Toml.read (Toml.plainLines cs) = .ok members)
    (htable : Datum.get? tableName members = some (.table t)) : Holds content t
  | top {bytes : List UInt8} {cs : List Char} {members : List (String × Datum)} (hbytes : content = .bytes bytes)
    (htext : Text.Utf8.decode bytes = .ok cs) (hread : Toml.read (Toml.plainLines cs) = .ok members)
    (hnone : ∀ t, Datum.get? tableName members ≠ some (.table t)) : Holds content members

/-- the settings of a file that may be missing -/
def Provides (content : Content) (members : List (String × Datum)) : Prop :=
  (content.isPresent = false ∧ members = []) ∨ Holds content members

/-- the settings of the three files -/
structure Tables where
  home : List (String × Datum)
  project : List (String × Datum)
  explicit : List (String × Datum)

/-- every file that is there loads, and one path leads to one file -/
structure Loads (s : Sources) (t : Tables) : Prop where
  home : Provides s.home.content t.home
  project : Provides s.project.content t.project
  explicit : match s.explicit with
    | none => t.explicit = []
    | some file => Holds file.content t.explicit
  one_file : s.project.path = s.home.path → s.project.content = s.home.content

end

/-- every variable for a setting can be read -/
def EnvironmentParses (environment : List (String × String)) : Prop :=
  ∀ f ∈ fields, ∀ text, environment.lookup (variableOf f.name) = some text → ∃ d, f.shape.parse text = .ok d

instance (environment : List (String × String)) : Decidable (EnvironmentParses environment) :=
  decidable_of_iff
    (∀ f ∈ fields, (environment.lookup (variableOf f.name)).all (fun text => (f.shape.parse text).isOk) = true) <| by
      refine forall₂_congr fun f _ => ?_
      cases environment.lookup (variableOf f.name) with
      | none => simp
      | some text => cases hparse : f.shape.parse text <;> simp [hparse, Except.isOk, Except.toBool]

/-- true of a value other than null -/
def isGiven : Datum → Bool
  | .null => false
  | _ => true

/-- true when a switch is given and on -/
def isOn (overrides : List (String × Datum)) (switch : String) : Bool := (Datum.get? switch overrides).any isTruthy

/-- what a caller overrides. The switches are no settings: each stands for a verbosity, quiet before verbose. -/
def overridden (overrides : List (String × Datum)) (name : String) : Option Datum :=
  if name = "verbose" ∨ name = "quiet" then none
  else if name = "verbosity" ∧ isOn overrides "quiet" then some "quiet"
  else if name = "verbosity" ∧ isOn overrides "verbose" then some "verbose"
  else (Datum.get? name overrides).filter isGiven

/-- what the environment defines, by the variables of given fields -/
def inEnvironment (environment : List (String × String)) (fs : List Field) (name : String) : Option Datum :=
  (fs.find? fun f => f.name = name).bind fun f =>
    (environment.lookup (variableOf f.name)).bind fun text => (f.shape.parse text).toOption.join

/-- what the sources define, in decreasing priority -/
def layers (s : Sources) (t : Tables) : List (String → Option Datum) :=
  [overridden s.overrides, inEnvironment s.environment fields, fun n => Datum.get? n t.explicit,
    fun n => Datum.get? n t.project, fun n => Datum.get? n t.home]

/-- the value of the first layer that defines a name -/
def firstDefined (ls : List (String → Option Datum)) (name : String) : Option Datum := ls.findSome? fun l => l name

/-- the value of the source with the highest priority among those that define a name -/
def defined? (s : Sources) (t : Tables) (name : String) : Option Datum := firstDefined (layers s t) name

/-- the value of a setting when none is given -/
def defaultOf (name : String) : Datum := ((fields.find? fun f => f.name = name).map Field.default).getD .null

/-- the value that a setting gets -/
def chosen (s : Sources) (t : Tables) (name : String) : Datum := (defined? s t name).getD (defaultOf name)

variable {s : Sources} {t : Tables} {content : Content} {ms ns old new overrides : List (String × Datum)} {k : String}

/-! ## Files -/

section

variable [Interpreter]

theorem keyed_of_holds (h : Holds content ms) : Keyed ms := by
  cases h with
  | table hbytes htext hread htable => exact ((Toml.distinct_grammar (Toml.grammar_of_read hread)).get? htable).keyed
  | top hbytes htext hread hnone => exact (Toml.distinct_grammar (Toml.grammar_of_read hread)).keyed

theorem keyed_of_provides (h : Provides content ms) : Keyed ms := by
  rcases h with ⟨-, rfl⟩ | h
  · exact List.nodup_nil
  · exact keyed_of_holds h

theorem ofContent_of_holds {path : String} (h : Holds content ms) : ofContent ⟨path, content⟩ = .ok ms := by
  cases h with
  | table hbytes htext hread htable =>
    subst hbytes
    simp only [ofContent, ofBytes, htext, hread, ofDocument, htable]
  | top hbytes htext hread hnone =>
    subst hbytes
    simp only [ofContent, ofBytes, htext, hread, ofDocument]

/-- a file whose bytes are a document holds the settings in that -/
theorem holds_ofDocument {bytes : List UInt8} {cs : List Char} (htext : Text.Utf8.decode bytes = .ok cs)
    (hread : Toml.read (Toml.plainLines cs) = .ok ms) : Holds (.bytes bytes) (ofDocument ms) := by
  unfold ofDocument
  split
  · rename_i t htable
    exact .table rfl htext hread htable
  · rename_i hnone
    exact .top rfl htext hread hnone

/-- a file that holds settings is there -/
theorem exists_bytes_of_holds (h : Holds content ms) : ∃ bytes, content = .bytes bytes := by
  cases h with
  | table hbytes => exact ⟨_, hbytes⟩
  | top hbytes => exact ⟨_, hbytes⟩

theorem ofOptional_of_provides {path : String} (h : Provides content ms) : ofOptional ⟨path, content⟩ = .ok ms := by
  rcases h with ⟨hmissing, rfl⟩ | h
  · cases content with
    | bytes b => cases hmissing
    | problem p => cases p <;> first | rfl | cases hmissing
  · have hcontent := @ofContent_of_holds _ _ _ path h
    obtain ⟨bytes, rfl⟩ := exists_bytes_of_holds h
    exact hcontent

theorem provides_of_ofOptional {path : String} (h : ofOptional ⟨path, content⟩ = .ok ms) : Provides content ms := by
  cases content with
  | problem p =>
    cases p <;> first
      | exact .inl ⟨rfl, (Except.ok.inj h).symm⟩
      | cases h
  | bytes b =>
    refine .inr ?_
    have hbytes : ofBytes path b = .ok ms := h
    unfold ofBytes at hbytes
    split at hbytes
    · cases hbytes
    · rename_i cs htext
      dsimp only at hbytes
      split at hbytes
      · cases hbytes
      · cases hbytes
      · cases hbytes
      · rename_i members hread
        cases hbytes
        exact holds_ofDocument htext hread

theorem ofExplicit_of_loads (h : Loads s t) : ofExplicit s.explicit = .ok t.explicit := by
  have hexplicit := h.explicit
  cases hfile : s.explicit with
  | none =>
    rw [hfile] at hexplicit
    rw [show t.explicit = [] from hexplicit]
    rfl
  | some file =>
    rw [hfile] at hexplicit
    have hholds : Holds file.content t.explicit := hexplicit
    obtain ⟨path, content⟩ := file
    have hcontent := @ofContent_of_holds _ _ _ path hholds
    obtain ⟨bytes, rfl⟩ := exists_bytes_of_holds hholds
    exact hcontent

theorem keyed_explicit (h : Loads s t) : Keyed t.explicit := by
  have hexplicit := h.explicit
  split at hexplicit
  · rw [hexplicit]
    exact List.nodup_nil
  · exact keyed_of_holds hexplicit

/-- what a file provides is all that it provides -/
theorem provides_unique (h : Provides content ms) (h' : Provides content ns) : ms = ns := by
  have hms := @ofOptional_of_provides _ _ _ "" h
  rw [ofOptional_of_provides h'] at hms
  exact (Except.ok.inj hms).symm

end

/-! ## Members over members -/

/-- **The members that are set over others win** -/
theorem get?_update (hnew : Keyed new) (old : List (String × Datum)) (k : String) :
    Datum.get? k (update old new) = (Datum.get? k new).or (Datum.get? k old) := by
  induction new generalizing old with
  | nil => rfl
  | cons m new ih =>
    obtain ⟨hm, hrest⟩ := List.nodup_cons.1 hnew
    have hstep : Datum.get? k (update old (m :: new)) =
        (Datum.get? k new).or (if k = m.1 then some m.2 else Datum.get? k old) := by
      rw [← Datum.get?_put]
      exact ih hrest (Datum.put old m.1 m.2)
    rw [hstep, Datum.get?_cons]
    by_cases hk : m.1 = k
    · rw [if_pos hk.symm, if_pos hk, Datum.get?_eq_none_iff.2 (hk ▸ hm)]
      rfl
    · rw [if_neg fun h => hk h.symm, if_neg hk]

theorem get?_update_congr {old' : List (String × Datum)} (h : ∀ k, Datum.get? k old = Datum.get? k old')
    (new : List (String × Datum)) (k : String) :
    Datum.get? k (update old new) = Datum.get? k (update old' new) := by
  induction new generalizing old old' with
  | nil => exact h k
  | cons m new ih => exact ih fun l => by rw [Datum.get?_put, Datum.get?_put, h]

/-! ## Overrides -/

theorem get?_applySwitch (hkeys : Keyed overrides) (switch : String) (v : Verbosity) (k : String) :
    Datum.get? k (applySwitch switch v overrides) =
      if k = "verbosity" ∧ isOn overrides switch then some (.text v.word)
      else if k = switch then none else Datum.get? k overrides := by
  have hfilter : Datum.get? k (overrides.filter fun m => m.1 != switch) =
      if k = switch then none else Datum.get? k overrides := by
    rw [Datum.get?_filter hkeys]
    by_cases hk : k = switch
    · simp [hk]
    · have hkept : (k != switch) = true := by simpa using hk
      simp only [if_neg hk, hkept]
      cases Datum.get? k overrides <;> rfl
  unfold applySwitch isOn
  cases hget : Datum.get? switch overrides with
  | none =>
    by_cases hk : k = switch
    · simp [hk, hget]
    · simp [hk]
  | some d =>
    cases hon : isTruthy d with
    | true =>
      simp only [Option.any_some, hon, if_true, and_true, Datum.get?_put, hfilter]
    | false =>
      simp only [Option.any_some, hon, Bool.false_eq_true, if_false, and_false, hfilter]

theorem keyed_applySwitch (hkeys : Keyed overrides) (switch : String) (v : Verbosity) :
    Keyed (applySwitch switch v overrides) := by
  unfold applySwitch
  split
  · exact hkeys
  · split
    · exact (hkeys.filter _).put _ _
    · exact hkeys.filter _

theorem isGiven_text (text : String) : isGiven (.text text) = true := rfl

theorem ofOverrides_eq (overrides : List (String × Datum)) :
    ofOverrides overrides =
      (applySwitch "quiet" .quiet (applySwitch "verbose" .verbose overrides)).filter fun m => isGiven m.2 := rfl

theorem keyed_ofOverrides (hkeys : Keyed overrides) : Keyed (ofOverrides overrides) :=
  (keyed_applySwitch (keyed_applySwitch hkeys _ _) _ _).filter _

theorem get?_ofOverrides (hkeys : Keyed overrides) (k : String) :
    Datum.get? k (ofOverrides overrides) = overridden overrides k := by
  have hverbose := keyed_applySwitch hkeys "verbose" .verbose
  have hquiet : isOn (applySwitch "verbose" .verbose overrides) "quiet" = isOn overrides "quiet" := by
    rw [isOn, get?_applySwitch hkeys]
    rfl
  rw [ofOverrides_eq, Datum.get?_filter (keyed_applySwitch hverbose _ _), get?_applySwitch hverbose, hquiet,
    get?_applySwitch hkeys]
  unfold overridden
  by_cases hverbosity : k = "verbosity"
  · subst hverbosity
    cases isOn overrides "quiet" <;> cases isOn overrides "verbose" <;> simp [isGiven_text, Verbosity.word]
  · by_cases hq : k = "quiet"
    · simp [hq]
    · by_cases hv : k = "verbose"
      · simp [hv]
      · simp [hverbosity, hq, hv]

/-- what a caller overrides is a setting, or unknown: no switch is left -/
theorem mem_of_overridden (h : (overridden overrides k).isSome = true) :
    k ∈ names ∨ (k ∈ overrides.map Prod.fst ∧ k ≠ "verbose" ∧ k ≠ "quiet") := by
  unfold overridden at h
  split at h
  · cases h
  · rename_i hswitch
    rw [not_or] at hswitch
    split at h
    · rename_i hquiet
      exact .inl (hquiet.1 ▸ by decide)
    · split at h
      · rename_i hverbose
        exact .inl (hverbose.1 ▸ by decide)
      · refine .inr ⟨Datum.isSome_get?_iff.1 ?_, hswitch⟩
        cases hget : Datum.get? k overrides with
        | none =>
          rw [hget] at h
          cases h
        | some d => rfl

/-! ## The environment -/

variable {environment : List (String × String)} {fs : List Field}

section

variable [Interpreter]

/-- what a variable defines stands before what those of the other fields define -/
theorem ofEnvironment_of_parses {f : Field}
    (h : ∀ text, environment.lookup (variableOf f.name) = some text → ∃ d, f.shape.parse text = .ok d) (fs : List Field) :
    ofEnvironment environment (f :: fs) = (ofEnvironment environment fs).map fun more =>
      (((environment.lookup (variableOf f.name)).bind fun text => (f.shape.parse text).toOption.join).toList.map
        fun d => (f.name, d)) ++ more := by
  rw [ofEnvironment]
  cases hlookup : environment.lookup (variableOf f.name) with
  | none => cases ofEnvironment environment fs <;> rfl
  | some text =>
    obtain ⟨d, hd⟩ := h text hlookup
    simp only [Option.bind_some, hd]
    cases d with
    | none => cases ofEnvironment environment fs <;> rfl
    | some d => cases ofEnvironment environment fs <;> rfl

/-- the first variable that cannot be read -/
theorem ofEnvironment_unparseable
    (h : ∃ f ∈ fs, ∃ text e, environment.lookup (variableOf f.name) = some text ∧ f.shape.parse text = .error e) :
    ∃ f ∈ fs, ∃ text e, environment.lookup (variableOf f.name) = some text ∧ f.shape.parse text = .error e ∧
      ofEnvironment environment fs =
        .error (.fault (.valueRejected f.name (.text text) (variableOf f.name ++ ": " ++ e.message))) := by
  induction fs with
  | nil =>
    obtain ⟨f, hf, -⟩ := h
    cases hf
  | cons g fs ih =>
    by_cases hg : ∃ text e, environment.lookup (variableOf g.name) = some text ∧ g.shape.parse text = .error e
    · obtain ⟨text, e, hlookup, hparse⟩ := hg
      refine ⟨g, List.mem_cons_self, text, e, hlookup, hparse, ?_⟩
      rw [ofEnvironment, hlookup]
      simp only [hparse, reject_eq, rejection_of_canBeWritten (canBeWritten_text text)]
      rfl
    · obtain ⟨f, hf, hbad⟩ := h
      have hmem : f ∈ fs := by
        rcases List.mem_cons.1 hf with rfl | hf
        · exact absurd hbad hg
        · exact hf
      obtain ⟨f', hf', text, e, hlookup, hparse, herror⟩ := ih ⟨f, hmem, hbad⟩
      refine ⟨f', List.mem_cons_of_mem g hf', text, e, hlookup, hparse, ?_⟩
      rw [ofEnvironment_of_parses, herror]
      · rfl
      · intro text' hlookup'
        cases hparse' : g.shape.parse text' with
        | ok d => exact ⟨d, rfl⟩
        | error e' => exact absurd ⟨text', e', hlookup', hparse'⟩ hg

/-- an environment that can be read defines each field by its variable -/
theorem exists_ofEnvironment
    (h : ∀ f ∈ fs, ∀ text, environment.lookup (variableOf f.name) = some text → ∃ d, f.shape.parse text = .ok d)
    (hnames : (fs.map Field.name).Nodup) :
    ∃ ms, ofEnvironment environment fs = .ok ms ∧ (∀ k ∈ ms.map Prod.fst, k ∈ fs.map Field.name) ∧ Keyed ms ∧
      ∀ k, Datum.get? k ms = inEnvironment environment fs k := by
  induction fs with
  | nil => exact ⟨[], rfl, fun _ hk => hk, List.nodup_nil, fun _ => rfl⟩
  | cons f fs ih =>
    obtain ⟨hnew, hrest⟩ := List.nodup_cons.1 hnames
    obtain ⟨ms, hms, hsub, hkeys, hget⟩ := ih (fun g hg => h g (List.mem_cons_of_mem f hg)) hrest
    have hfound := ofEnvironment_of_parses (h f List.mem_cons_self) fs
    rw [hms] at hfound
    refine ⟨_, hfound, ?_, ?_, ?_⟩
    · intro k hk
      rw [List.map_append, List.mem_append] at hk
      rcases hk with hk | hk
      · obtain ⟨m, hm, rfl⟩ := List.mem_map.1 hk
        obtain ⟨d, -, rfl⟩ := List.mem_map.1 hm
        exact List.mem_cons_self
      · exact List.mem_cons_of_mem _ (hsub k hk)
    · cases (environment.lookup (variableOf f.name)).bind fun text => (f.shape.parse text).toOption.join with
      | none => exact hkeys
      | some d => exact List.nodup_cons.2 ⟨fun hk => hnew (hsub _ hk), hkeys⟩
    · intro k
      rw [Datum.get?_append, hget, inEnvironment, inEnvironment]
      by_cases hk : f.name = k
      · have hnone : (fs.find? fun g => g.name = k) = none := by
          rw [List.find?_eq_none]
          intro g hg
          rw [decide_eq_true_eq]
          rintro rfl
          exact hnew (hk ▸ List.mem_map_of_mem hg)
        rw [List.find?_cons_of_pos (by simpa using hk), hnone, Option.bind_some]
        cases (environment.lookup (variableOf f.name)).bind fun text => (f.shape.parse text).toOption.join with
        | none => rfl
        | some d => simp [Datum.get?_cons, hk]
      · rw [List.find?_cons_of_neg (by simpa using hk)]
        cases (environment.lookup (variableOf f.name)).bind fun text => (f.shape.parse text).toOption.join with
        | none => rfl
        | some d => simp [Datum.get?_cons, hk]

end

theorem mem_of_inEnvironment (h : (inEnvironment environment fields k).isSome = true) : k ∈ names := by
  cases hfind : fields.find? fun f => f.name = k with
  | none =>
    rw [inEnvironment, hfind] at h
    cases h
  | some f =>
    have hk : f.name = k := by simpa using List.find?_some hfind
    exact hk ▸ List.mem_map_of_mem (List.mem_of_find?_eq_some hfind)

/-! ## All sources together -/

/-- the members that the files, the environment and the overrides make together -/
def merged (s : Sources) (t : Tables) (environment : List (String × Datum)) : List (String × Datum) :=
  update (update (update (update t.home (if s.project.path = s.home.path then [] else t.project)) t.explicit) environment)
    (ofOverrides s.overrides)

theorem nodup_names : (fields.map Field.name).Nodup := by decide

section

variable [Interpreter]

/-- files that load leave the environment to fail -/
theorem merge_of_loads (h : Loads s t) :
    merge s = (ofEnvironment s.environment fields).map fun environment => merged s t environment := by
  have hhome : ofOptional s.home = .ok t.home := ofOptional_of_provides h.home
  have hproject : ofOptional s.project = .ok t.project := ofOptional_of_provides h.project
  rw [merge, hhome, hproject, ofExplicit_of_loads h]
  unfold merged
  by_cases hpath : s.project.path = s.home.path
  · simp only [if_pos hpath]
    cases ofEnvironment s.environment fields <;> rfl
  · simp only [if_neg hpath]
    cases ofEnvironment s.environment fields <;> rfl

/-- **What is merged is what the first layer that defines it says** -/
theorem get?_merged (h : Loads s t) (hkeys : Keyed s.overrides) {environment : List (String × Datum)}
    (henv : Keyed environment) (hget : ∀ k, Datum.get? k environment = inEnvironment s.environment fields k) (k : String) :
    Datum.get? k (merged s t environment) = defined? s t k := by
  have hfiles : Datum.get? k (update t.home (if s.project.path = s.home.path then [] else t.project)) =
      (Datum.get? k t.project).or (Datum.get? k t.home) := by
    by_cases hpath : s.project.path = s.home.path
    · -- one file, which defines the same twice
      have hsame : t.project = t.home := provides_unique (h.one_file hpath ▸ h.project) h.home
      rw [if_pos hpath, hsame, Option.or_self]
      rfl
    · rw [if_neg hpath, get?_update (keyed_of_provides h.project)]
  rw [merged, get?_update (keyed_ofOverrides hkeys), get?_update henv, get?_update (keyed_explicit h), hfiles, hget,
    get?_ofOverrides hkeys]
  unfold defined? firstDefined layers
  simp only [List.findSome?_cons, List.findSome?_nil]
  cases overridden s.overrides k <;> cases inEnvironment s.environment fields k <;> cases Datum.get? k t.explicit <;>
    cases Datum.get? k t.project <;> cases Datum.get? k t.home <;> rfl

/-- an environment that can be read lets the sources be merged -/
theorem exists_merge (h : Loads s t) (hkeys : Keyed s.overrides) (henv : EnvironmentParses s.environment) :
    ∃ ms, merge s = .ok ms ∧ ∀ k, Datum.get? k ms = defined? s t k := by
  obtain ⟨environment, henvironment, -, hkeyed, hget⟩ := exists_ofEnvironment henv nodup_names
  refine ⟨merged s t environment, ?_, get?_merged h hkeys hkeyed hget⟩
  rw [merge_of_loads h, henvironment]
  rfl

end

/-! ## The least unknown name -/

theorem leastName_eq_none {l : List String} : leastName l = none ↔ l = [] := by
  cases l with
  | nil => simp [leastName]
  | cons s ss =>
    rw [leastName]
    cases leastName ss <;> simp

theorem leastName_spec {l : List String} {n : String} (h : leastName l = some n) : n ∈ l ∧ ∀ m ∈ l, ¬ m < n := by
  induction l generalizing n with
  | nil => cases h
  | cons s ss ih =>
    rw [leastName] at h
    cases hrest : leastName ss with
    | none =>
      rw [hrest] at h
      cases h
      rw [leastName_eq_none.1 hrest]
      refine ⟨List.mem_singleton_self s, fun m hm => ?_⟩
      rw [List.mem_singleton.1 hm]
      exact String.lt_irrefl s
    | some m =>
      rw [hrest] at h
      obtain ⟨hm, hleast⟩ := ih hrest
      dsimp only at h
      split at h
      · rename_i hlt
        cases h
        refine ⟨List.mem_cons_of_mem s hm, fun x hx => ?_⟩
        rcases List.mem_cons.1 hx with rfl | hx
        · exact String.lt_asymm hlt
        · exact hleast x hx
      · rename_i hge
        cases h
        refine ⟨List.mem_cons_self, fun x hx => ?_⟩
        rcases List.mem_cons.1 hx with rfl | hx
        · exact String.lt_irrefl _
        · intro hlt
          by_cases hsm : s < m
          · exact hleast x hx (String.lt_trans hlt hsm)
          · rw [String.le_antisymm (String.not_lt.1 hge) (String.not_lt.1 hsm)] at hlt
            exact hleast x hx hlt

/-- the least name among some is the same for all lists of them -/
theorem leastName_congr {l l' : List String} (h : ∀ n, n ∈ l ↔ n ∈ l') : leastName l = leastName l' := by
  cases hl : leastName l with
  | none =>
    have hnil : l' = [] := by
      refine List.eq_nil_iff_forall_not_mem.2 fun n hn => ?_
      rw [leastName_eq_none.1 hl] at h
      exact List.not_mem_nil ((h n).2 hn)
    rw [hnil]
    rfl
  | some n =>
    obtain ⟨hn, hleast⟩ := leastName_spec hl
    cases hl' : leastName l' with
    | none =>
      rw [leastName_eq_none.1 hl'] at h
      exact absurd ((h n).1 hn) List.not_mem_nil
    | some n' =>
      obtain ⟨hn', hleast'⟩ := leastName_spec hl'
      rw [String.le_antisymm (String.not_lt.1 (hleast n' ((h n').2 hn'))) (String.not_lt.1 (hleast' n ((h n).1 hn)))]

theorem mem_unknown_iff {n : String} :
    n ∈ (ms.map (·.1)).filter (fun n => !names.contains n) ↔ (Datum.get? n ms).isSome = true ∧ n ∉ names := by
  rw [List.mem_filter, Datum.isSome_get?_iff]
  simp

/-- **Settings depend on the members by their names alone** -/
theorem ofMerged_congr [Interpreter] (h : ∀ k, Datum.get? k ms = Datum.get? k ns) : ofMerged ms = ofMerged ns := by
  have hleast : leastName ((ms.map (·.1)).filter fun n => !names.contains n) =
      leastName ((ns.map (·.1)).filter fun n => !names.contains n) :=
    leastName_congr fun n => by rw [mem_unknown_iff, mem_unknown_iff, h]
  have hvalues : valueIn ms = valueIn ns := by
    funext name
    rw [valueIn, valueIn, h]
  rw [ofMerged, ofMerged, hleast, hvalues]
  cases leastName ((ns.map (·.1)).filter fun n => !names.contains n) with
  | none => rfl
  | some n => simp only [h]

end ChangeLint.Settings
