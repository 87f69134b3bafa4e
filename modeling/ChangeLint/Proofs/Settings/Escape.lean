/-
Failures of loading settings that are no faults of a configuration.

What is wrong with a file or with a value is a fault, which says so (`IsConfiguration`). Some failures are none (`Escapes`):
of a file those that its name is too long, that its bytes are not UTF-8, that it holds a number that is too long and that it
is nested too deep; of a value that is to be refused that it cannot be written out; and of a pattern some that it is refused
for.

Results:
- `escape_load`: these are all, so every other failure is a fault of a file or of a value;
- `load_of_reportable`: sources that can be reported let none of them escape;
- `mem_families_of_isConfiguration`: those faults are of one family, so who asks for that sees all of them.
-/
import ChangeLint.Proofs.Settings.Constraint
import ChangeLint.Proofs.Settings.Layers
import ChangeLint.Proofs.Toml.Refusal

namespace ChangeLint.Settings

/-! ## Faults and other failures -/

section

variable [Interpreter]

/-- a fault of a configuration: of a file, or of a value -/
inductive IsConfiguration : Failure → Prop
  | file (path reason : String) : IsConfiguration (.fault (.fileRejected path reason))
  | value (key : String) (value : Datum) (reason : String) : IsConfiguration (.fault (.valueRejected key value reason))

/-- a failure of a computation that is no fault of a configuration -/
def Escape {α : Type} (x : Except Failure α) (f : Failure) : Prop := x = .error f ∧ ¬ IsConfiguration f

/-- a failure of a file that is no fault of a configuration -/
inductive FileEscapes (s : Source) : Failure → Prop
  | name (h : s.content = .problem .nameTooLong) :
    FileEscapes s (.unnamed (Content.Problem.nameTooLong.message s.path))
  | notUtf8 {bytes : List UInt8} {e : Text.Utf8.Error} (h : s.content = .bytes bytes)
    (hdecode : Text.Utf8.decode bytes = .error e) : FileEscapes s (.notUtf8 e)
  | tooLong {bytes : List UInt8} {cs : List Char} {e : Number.TooLong} (h : s.content = .bytes bytes)
    (hdecode : Text.Utf8.decode bytes = .ok cs) (hread : Toml.read (Toml.plainLines cs) = .error (.tooLong e)) :
    FileEscapes s (.tooLong e)
  | tooDeep {bytes : List UInt8} {cs : List Char} {m : String} (h : s.content = .bytes bytes)
    (hdecode : Text.Utf8.decode bytes = .ok cs) (hstack : Interpreter.overrun? .document (Toml.plainLines cs) = some m) :
    FileEscapes s (.exhausted m)

/-- the name that is reported of some members: the least one that is unknown -/
def unknown? (members : List (String × Datum)) : Option String :=
  leastName ((members.map (·.1)).filter fun n => !names.contains n)

/-- the pattern among some members -/
def patternIn (members : List (String × Datum)) : String := textOf (valueIn members "formatter_pattern")

/-- a failure of loading settings that is no fault of a configuration -/
inductive Escapes (s : Sources) : Failure → Prop
  | home {f : Failure} (h : FileEscapes s.home f) : Escapes s f
  | project {home : List (String × Datum)} {f : Failure} (hhome : Provides s.home.content home)
    (hpath : s.project.path ≠ s.home.path) (h : FileEscapes s.project f) : Escapes s f
  | explicit {home : List (String × Datum)} {file : Source} {f : Failure} (hhome : Provides s.home.content home)
    (hproject : s.project.path = s.home.path ∨ ∃ project, Provides s.project.content project)
    (hfile : s.explicit = some file) (h : FileEscapes file f) : Escapes s f
  | name {members : List (String × Datum)} {n : String} {f : Failure} (hmerge : merge s = .ok members)
    (hname : unknown? members = some n) (h : Unwritable ((Datum.get? n members).getD .null) f) : Escapes s f
  | value {members : List (String × Datum)} {c : Constraint} {f : Failure} (hmerge : merge s = .ok members)
    (hknown : unknown? members = none) (hbroken : firstBroken? (constraints (valueIn members)) = some c)
    (h : Unwritable c.value f) : Escapes s f
  | pattern {members : List (String × Datum)} {e : Pattern.Refusal} (hmerge : merge s = .ok members)
    (hknown : unknown? members = none) (hsound : firstBroken? (constraints (valueIn members)) = none)
    (hread : Pattern.read (patternIn members).toList = .error e) (he : ∀ reason place, e ≠ .malformed reason place) :
    Escapes s (.pattern (patternIn members) e)

end

variable {α β : Type} {x : Except Failure α} {f g : Failure} {s : Source}

/-- faults of a configuration are of its family -/
theorem mem_families_of_isConfiguration (h : IsConfiguration f) :
    ∃ fault, f = .fault fault ∧ Fault.Kind.configuration ∈ fault.kind.families := by
  have hfile : Fault.Kind.configuration ∈ Fault.Kind.fileRejected.families := by decide +kernel
  have hvalue : Fault.Kind.configuration ∈ Fault.Kind.valueRejected.families := by decide +kernel
  cases h with
  | file path reason => exact ⟨_, rfl, hfile⟩
  | value key value reason => exact ⟨_, rfl, hvalue⟩

theorem not_escape_ok {a : α} : ¬ Escape (Except.ok a : Except Failure α) f := fun h => nomatch h.1

/-- what escapes from a computation of two steps escapes from the first, or from the second after the first -/
theorem escape_bind {k : α → Except Failure β} :
    Escape (x >>= k) f ↔ Escape x f ∨ ∃ a, x = .ok a ∧ Escape (k a) f := by
  cases x with
  | error e => simp [Escape]
  | ok a => simp [Escape]

theorem not_escape_configuration (h : IsConfiguration f) : ¬ Escape (.error f : Except Failure α) g := by
  rintro ⟨hf, hg⟩
  cases hf
  exact hg h

/-- a failure that is no fault escapes, whatever it is -/
theorem escape_of_no_fault (h : ∀ fault, g ≠ .fault fault) : Escape (.error g : Except Failure α) f ↔ f = g := by
  constructor
  · rintro ⟨hg, -⟩
    exact (Except.error.inj hg).symm
  · rintro rfl
    refine ⟨rfl, fun hf => ?_⟩
    cases hf with
    | file => exact h _ rfl
    | value => exact h _ rfl

theorem escape_self (h : ∀ fault, g ≠ .fault fault) : Escape (.error g : Except Failure α) g := (escape_of_no_fault h).2 rfl

theorem hasLongInt_zero : (Datum.int 0).hasLongInt = false := by decide +kernel

/-! ## Files -/

variable [Interpreter]

theorem escape_ofBytes (path : String) (bytes : List UInt8) :
    Escape (ofBytes path bytes) f ↔ FileEscapes ⟨path, .bytes bytes⟩ f := by
  constructor
  · rintro ⟨h, hf⟩
    unfold ofBytes at h
    cases hdecode : Text.Utf8.decode bytes with
    | error e =>
      rw [hdecode] at h
      cases h
      exact .notUtf8 rfl hdecode
    | ok cs =>
      rw [hdecode] at h
      dsimp only at h
      cases hread : Toml.read (Toml.plainLines cs) with
      | ok members =>
        rw [hread] at h
        cases h
      | error e =>
        rw [hread] at h
        cases e with
        | malformed reason left =>
          cases h
          exact absurd (IsConfiguration.file path _) hf
        | tooLong e =>
          cases h
          exact .tooLong rfl hdecode hread
        | tooDeep m =>
          cases h
          exact .tooDeep rfl hdecode (Toml.read_eq_tooDeep_iff.1 hread)
  · intro h
    cases h with
    | name h => cases h
    | notUtf8 h hdecode =>
      cases h
      rw [ofBytes, hdecode]
      exact escape_self fun fault hfault => by cases hfault
    | tooLong h hdecode hread =>
      cases h
      simp only [ofBytes, hdecode, hread]
      exact escape_self fun fault hfault => by cases hfault
    | tooDeep h hdecode hstack =>
      cases h
      simp only [ofBytes, hdecode, Toml.read_eq_tooDeep_iff.2 hstack]
      exact escape_self fun fault hfault => by cases hfault

/-- of a file that may be there or not, the same escapes whether it must be there or not -/
theorem escape_checked {missing : Except Failure (List (String × Datum))} (hmissing : ∀ g, ¬ Escape missing g) :
    Escape (checkName s >>= fun _ => if s.content.isPresent then ofContent s else missing) f ↔ FileEscapes s f := by
  obtain ⟨path, content⟩ := s
  cases content with
  | bytes bytes => exact escape_ofBytes path bytes
  | problem p =>
    by_cases hp : p = .nameTooLong
    · subst hp
      constructor
      · rintro ⟨h, -⟩
        cases h
        exact .name rfl
      · intro h
        cases h with
        | name =>
          exact escape_self fun fault hfault => by cases hfault
        | notUtf8 h => cases h
        | tooLong h => cases h
        | tooDeep h => cases h
    · have hname : checkName ⟨path, .problem p⟩ = .ok () := by
        cases p <;> first | rfl | exact absurd rfl hp
      have hno : ¬ FileEscapes ⟨path, .problem p⟩ f := by
        intro h
        cases h with
        | name h => exact hp (Content.problem.inj h)
        | notUtf8 h => cases h
        | tooLong h => cases h
        | tooDeep h => cases h
      rw [hname, ok_bind]
      refine iff_of_false ?_ hno
      split
      · exact not_escape_configuration (.file _ _)
      · exact hmissing f

theorem escape_ofOptional : Escape (ofOptional s) f ↔ FileEscapes s f :=
  escape_checked fun _ => not_escape_ok

theorem escape_ofExplicit {file? : Option Source} :
    Escape (ofExplicit file?) f ↔ ∃ file, file? = some file ∧ FileEscapes file f := by
  cases file? with
  | none => exact iff_of_false not_escape_ok (by simp)
  | some file =>
    simp only [Option.some.injEq, exists_eq_left']
    exact escape_checked fun _ => not_escape_configuration (.file file.path "file not found")

theorem ofOptional_eq_ok {members : List (String × Datum)} : ofOptional s = .ok members ↔ Provides s.content members :=
  ⟨provides_of_ofOptional, ofOptional_of_provides⟩

/-! ## The environment -/

/-- a variable that cannot be read is reported as such -/
theorem not_escape_ofEnvironment (environment : List (String × String)) (fs : List Field) :
    ¬ Escape (ofEnvironment environment fs) f := by
  induction fs with
  | nil => exact not_escape_ok
  | cons field fs ih =>
    have hrest : ∀ found : List (String × Datum),
        ¬ Escape (ofEnvironment environment fs >>= fun more => pure (found ++ more)) f := by
      intro found h
      rcases escape_bind.1 h with h | ⟨more, -, h⟩
      · exact ih h
      · exact not_escape_ok h
    rw [ofEnvironment]
    cases environment.lookup (variableOf field.name) with
    | none => exact hrest []
    | some text =>
      dsimp only
      split
      · rw [reject_eq, rejection_of_canBeWritten (canBeWritten_text text)]
        exact not_escape_configuration (.value _ _ _)
      · exact hrest []
      · exact hrest _

/-! ## Values -/

section

variable {key reason : String} {d : Datum}

theorem unwritable_rejection (h : ¬ CanBeWritten d) : Unwritable d (rejection key d reason) := by
  unfold rejection
  cases hroom : Interpreter.unwritten? .literal d with
  | some m => exact .tooDeep hroom
  | none =>
    have hlong : d.hasLongInt = true := by
      by_contra hshort
      exact h ⟨hroom, Bool.eq_false_iff.2 hshort⟩
    rw [hlong]
    exact .tooLong hroom hlong

theorem Unwritable.eq_rejection (h : Unwritable d f) : f = rejection key d reason := by
  cases h with
  | tooDeep h => simp [rejection, h]
  | tooLong hroom h => simp [rejection, hroom, h]

/-- only a value that cannot be written out cannot be reported -/
theorem escape_rejection : Escape (.error (rejection key d reason) : Except Failure α) f ↔ Unwritable d f := by
  by_cases hwritten : CanBeWritten d
  · rw [rejection_of_canBeWritten hwritten]
    exact iff_of_false (not_escape_configuration (.value key d reason)) hwritten.not_unwritable
  · have hno : ∀ fault, rejection key d reason ≠ .fault fault := by
      intro fault hfault
      have h := @unwritable_rejection _ key reason d hwritten
      rw [hfault] at h
      cases h
    refine (escape_of_no_fault hno).trans ⟨?_, Unwritable.eq_rejection⟩
    rintro rfl
    exact unwritable_rejection hwritten

end

/-- of a pattern that is malformed or lacks a group there is a fault, of one that is refused otherwise there is none -/
theorem escape_checkPattern {text : String} : Escape (checkPattern text) f ↔
    ∃ e, Pattern.read text.toList = .error e ∧ (∀ reason place, e ≠ .malformed reason place) ∧ f = .pattern text e := by
  have htext : ¬ Unwritable (.text text) f := (canBeWritten_text text).not_unwritable
  unfold checkPattern
  cases hread : Pattern.read text.toList with
  | ok p =>
    simp only [demand, reject_eq]
    refine iff_of_false ?_ (by simp)
    split
    · exact not_escape_ok
    · simp [escape_rejection, htext]
  | error e =>
    cases e with
    | malformed reason place => simp [reject_eq, escape_rejection, htext]
    | tooManyTimes => simp [escape_of_no_fault]
    | tooLong e => simp [escape_of_no_fault]
    | twoAlphabets => simp [escape_of_no_fault]
    | tooDeep m => simp [escape_of_no_fault]

theorem ofMerged_eq (members : List (String × Datum)) : ofMerged members = match unknown? members with
    | some n => .error (rejection n ((Datum.get? n members).getD .null) "unknown configuration key")
    | none => ofValues (valueIn members) := by
  unfold ofMerged unknown?
  cases leastName ((members.map (·.1)).filter fun n => !names.contains n) with
  | some n => exact reject_eq _ _ _
  | none => rfl

theorem escape_ofMerged {members : List (String × Datum)} : Escape (ofMerged members) f ↔
    (∃ n, unknown? members = some n ∧ Unwritable ((Datum.get? n members).getD .null) f) ∨
      unknown? members = none ∧ Escape (ofValues (valueIn members)) f := by
  rw [ofMerged_eq]
  cases unknown? members with
  | some n => simp [escape_rejection]
  | none => simp

theorem escape_ofValues {value : String → Datum} : Escape (ofValues value) f ↔
    (∃ c, firstBroken? (constraints value) = some c ∧ Unwritable c.value f) ∨
      firstBroken? (constraints value) = none ∧ ∃ e, Pattern.read (textOf (value "formatter_pattern")).toList = .error e ∧
        (∀ reason place, e ≠ .malformed reason place) ∧ f = .pattern (textOf (value "formatter_pattern")) e := by
  rw [← escape_checkPattern, ofValues_eq, checkAll]
  cases firstBroken? (constraints value) with
  | some c => simp [escape_rejection]
  | none =>
    rw [ok_bind, escape_bind]
    simp [not_escape_ok, pure, Except.pure]

/-! ## Loading -/

variable {sources : Sources}

theorem merge_eq (sources : Sources) : merge sources =
    ofOptional sources.home >>= fun home =>
      (if sources.project.path = sources.home.path then .ok [] else ofOptional sources.project) >>= fun project =>
        ofExplicit sources.explicit >>= fun explicit =>
          ofEnvironment sources.environment fields >>= fun environment =>
            pure (update (update (update (update home project) explicit) environment) (ofOverrides sources.overrides)) := by
  unfold merge
  split <;> rfl

/-- what escapes when the sources are put together escapes from a file -/
theorem escape_merge : Escape (merge sources) f ↔
    FileEscapes sources.home f ∨ ∃ home, Provides sources.home.content home ∧
      (sources.project.path ≠ sources.home.path ∧ FileEscapes sources.project f ∨
        (sources.project.path = sources.home.path ∨ ∃ project, Provides sources.project.content project) ∧
          ∃ file, sources.explicit = some file ∧ FileEscapes file f) := by
  have hlast : ∀ home project explicit, ¬ Escape (ofEnvironment sources.environment fields >>= fun environment =>
      pure (update (update (update (update home project) explicit) environment) (ofOverrides sources.overrides))) f := by
    intro home project explicit h
    rcases escape_bind.1 h with h | ⟨environment, -, h⟩
    · exact not_escape_ofEnvironment _ _ h
    · exact not_escape_ok h
  have hexplicit : ∀ home project, Escape (ofExplicit sources.explicit >>= fun explicit =>
      ofEnvironment sources.environment fields >>= fun environment =>
        pure (update (update (update (update home project) explicit) environment) (ofOverrides sources.overrides))) f ↔
      ∃ file, sources.explicit = some file ∧ FileEscapes file f := by
    intro home project
    rw [escape_bind, escape_ofExplicit]
    refine or_iff_left ?_
    rintro ⟨explicit, -, h⟩
    exact hlast home project explicit h
  rw [merge_eq, escape_bind, escape_ofOptional]
  refine or_congr_right (exists_congr fun home => and_congr ofOptional_eq_ok ?_)
  by_cases hpath : sources.project.path = sources.home.path
  · rw [if_pos hpath, ok_bind, hexplicit]
    simp only [hpath, ne_eq, not_true_eq_false, false_and, true_or, true_and, false_or]
  · rw [if_neg hpath, escape_bind, escape_ofOptional]
    simp only [hexplicit, ofOptional_eq_ok, exists_and_right, ne_eq, hpath, not_false_eq_true, false_or, true_and]

/-- **What escapes when settings are loaded** -/
theorem escape_load : Escape (load sources) f ↔ Escapes sources f := by
  rw [load, escape_bind, escape_merge]
  constructor
  · rintro ((h | ⟨home, hhome, ⟨hpath, h⟩ | ⟨hproject, file, hfile, h⟩⟩) | ⟨members, hmerge, h⟩)
    · exact .home h
    · exact .project hhome hpath h
    · exact .explicit hhome hproject hfile h
    · rcases escape_ofMerged.1 h with ⟨n, hname, h⟩ | ⟨hknown, h⟩
      · exact .name hmerge hname h
      · rcases escape_ofValues.1 h with ⟨c, hbroken, h⟩ | ⟨hsound, e, hread, he, rfl⟩
        · exact .value hmerge hknown hbroken h
        · exact .pattern hmerge hknown hsound hread he
  · intro h
    cases h with
    | home h => exact .inl (.inl h)
    | project hhome hpath h => exact .inl (.inr ⟨_, hhome, .inl ⟨hpath, h⟩⟩)
    | explicit hhome hproject hfile h => exact .inl (.inr ⟨_, hhome, .inr ⟨hproject, _, hfile, h⟩⟩)
    | name hmerge hname h => exact .inr ⟨_, hmerge, escape_ofMerged.2 (.inl ⟨_, hname, h⟩)⟩
    | value hmerge hknown hbroken h =>
      exact .inr ⟨_, hmerge, escape_ofMerged.2 (.inr ⟨hknown, escape_ofValues.2 (.inl ⟨_, hbroken, h⟩)⟩)⟩
    | pattern hmerge hknown hsound hread he =>
      exact .inr ⟨_, hmerge, escape_ofMerged.2 (.inr ⟨hknown, escape_ofValues.2 (.inr ⟨hsound, _, hread, he, rfl⟩)⟩)⟩

/-! ## What can be reported -/

/-- a file whose faults can be reported: its name is not too long, and it is UTF-8 without a run of digits that is too long and
without values that are nested too deep -/
structure Source.Reportable (s : Source) : Prop where
  name : s.content ≠ .problem .nameTooLong
  text : ∀ bytes, s.content = .bytes bytes → ∃ cs, Text.Utf8.decode bytes = .ok cs ∧ (∀ e, ¬ Toml.HoldsRun cs e) ∧
    Interpreter.overrun? .document (Toml.plainLines cs) = none

/-- sources whose faults can all be reported: those of their files can, every value can be written out, and the pattern is none
of the few that are refused otherwise than as malformed -/
structure Sources.Reportable (s : Sources) : Prop where
  home : s.home.Reportable
  project : s.project.Reportable
  explicit : ∀ file, s.explicit = some file → file.Reportable
  values : ∀ members, merge s = .ok members → ∀ m ∈ members, CanBeWritten m.2
  pattern : ∀ members e, merge s = .ok members → Pattern.read (patternIn members).toList = .error e →
    ∃ reason place, e = .malformed reason place

theorem Source.Reportable.not_escapes (h : s.Reportable) : ¬ FileEscapes s f := by
  intro hf
  cases hf with
  | name hname => exact h.name hname
  | notUtf8 hbytes hdecode =>
    obtain ⟨cs, hcs, -⟩ := h.text _ hbytes
    rw [hdecode] at hcs
    cases hcs
  | tooLong hbytes hdecode hread =>
    obtain ⟨cs, hcs, hruns, -⟩ := h.text _ hbytes
    rw [hdecode] at hcs
    cases hcs
    exact hruns _ (Toml.holdsRun_of_read_plainLines hread)
  | tooDeep hbytes hdecode hstack =>
    obtain ⟨cs, hcs, -, hroom⟩ := h.text _ hbytes
    rw [hdecode] at hcs
    cases hcs
    rw [hroom] at hstack
    cases hstack

theorem canBeWritten_valueIn {members : List (String × Datum)} (h : ∀ m ∈ members, CanBeWritten m.2) (n : String) :
    CanBeWritten (valueIn members n) := by
  unfold valueIn
  split
  · rename_i d hd
    exact h (n, d) (Datum.mem_of_get? hd)
  · have hdefaults : ∀ f ∈ fields, f.default.depth ≤ Interpreter.shallow ∧ f.default.hasLongInt = false := by decide +kernel
    cases hfind : fields.find? fun f => f.name = n with
    | none => exact canBeWritten_of_shallow (Nat.zero_le _) rfl
    | some f =>
      obtain ⟨hdepth, hshort⟩ := hdefaults f (List.mem_of_find?_eq_some hfind)
      exact canBeWritten_of_shallow hdepth hshort

theorem canBeWritten_intOf {d : Datum} (h : CanBeWritten d) : CanBeWritten (.int (intOf d)) := by
  refine canBeWritten_of_shallow (Nat.zero_le _) ?_
  cases d with
  | int n => exact h.short
  | _ => exact hasLongInt_zero

theorem canBeWritten_secondsOf {d : Datum} (h : CanBeWritten d) : CanBeWritten (secondsOf d).datum := by
  cases d with
  | int n => exact h
  | real x => exact h
  | _ => exact canBeWritten_of_shallow (Nat.zero_le _) hasLongInt_zero

/-- constraints on values that can be written out are about such values -/
theorem canBeWritten_of_mem_constraints {value : String → Datum} (h : ∀ n, CanBeWritten (value n)) :
    ∀ c ∈ constraints value, CanBeWritten c.value := by
  have hvalues : ∀ c ∈ valueConstraints value, CanBeWritten c.value := by
    simp only [valueConstraints, List.forall_mem_cons]
    exact ⟨canBeWritten_text _, canBeWritten_text _, canBeWritten_intOf (h _), canBeWritten_secondsOf (h _),
      canBeWritten_text _, fun _ hc => absurd hc List.not_mem_nil⟩
  intro c hc
  rw [constraints, List.mem_append, List.mem_append] at hc
  rcases hc with (hc | hc) | hc
  · obtain ⟨f, -, rfl⟩ := List.mem_map.1 hc
    exact h f.name
  · exact hvalues c hc
  · obtain ⟨key, -, hc⟩ := List.mem_flatMap.1 hc
    obtain ⟨suffix, -, rfl⟩ := List.mem_map.1 hc
    exact canBeWritten_text suffix

/-- **Sources that can be reported load, or there is a fault of a file or a value** -/
theorem load_of_reportable (h : sources.Reportable) :
    (∃ settings, load sources = .ok settings) ∨ ∃ f, load sources = .error f ∧ IsConfiguration f := by
  cases hload : load sources with
  | ok settings => exact .inl ⟨settings, rfl⟩
  | error f =>
    refine .inr ⟨f, rfl, ?_⟩
    by_contra hf
    cases escape_load.1 ⟨hload, hf⟩ with
    | home hfile => exact h.home.not_escapes hfile
    | project hhome hpath hfile => exact h.project.not_escapes hfile
    | explicit hhome hproject hsome hfile => exact (h.explicit _ hsome).not_escapes hfile
    | @name members n _ hmerge hname hvalue =>
      have hnull : CanBeWritten .null := canBeWritten_of_shallow (Nat.zero_le _) rfl
      cases hget : Datum.get? n members with
      | none => exact hnull.not_unwritable (hget ▸ hvalue)
      | some d => exact (h.values members hmerge _ (Datum.mem_of_get? hget)).not_unwritable (hget ▸ hvalue)
    | value hmerge hknown hbroken hvalue =>
      have hvalues := canBeWritten_of_mem_constraints (canBeWritten_valueIn (h.values _ hmerge)) _
        (List.mem_of_find?_eq_some hbroken)
      exact hvalues.not_unwritable hvalue
    | pattern hmerge hknown hsound hread he =>
      obtain ⟨reason, place, rfl⟩ := h.pattern _ _ hmerge hread
      exact he reason place rfl

end ChangeLint.Settings
