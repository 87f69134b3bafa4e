/-
Validation as a list of constraints.

Settings are made from raw values when all `constraints` hold and the pattern is one; the first constraint that does not hold
is reported with the value that breaks it, and the pattern is looked at last.

Results:
- `ofValues_eq`: validation asks for the constraints in order, then for the pattern;
- `ofValues_eq_ok`: what is made when all hold;
- `ofValues_eq_error`: how validation fails, and on what.
-/
import ChangeLint.Proofs.Written
import ChangeLint.Settings.Basic

namespace ChangeLint.Settings

/-! ## Constraints -/

/-- a constraint on a setting: whether it holds, and what is reported if it does not -/
structure Constraint where
  holds : Bool
  key : String
  value : Datum
  reason : String

/-- how the value of a setting is refused; one that cannot be written out cannot be reported -/
def rejection [Interpreter] (key : String) (value : Datum) (reason : String) : Failure :=
  match Interpreter.unwritten? .literal value with
  | some m => .exhausted m
  | none => if value.hasLongInt then .tooLong .writing else .fault (.valueRejected key value reason)

/-- the first constraint that does not hold -/
def firstBroken? (cs : List Constraint) : Option Constraint := cs.find? fun c => !c.holds

/-- constraints one after another, of which the first that does not hold is reported -/
def checkAll [Interpreter] (cs : List Constraint) : Except Failure Unit :=
  match firstBroken? cs with
  | none => .ok ()
  | some c => .error (rejection c.key c.value c.reason)

section

variable (value : String → Datum)

/-- the value of a field has the shape of the field -/
def shapeConstraint (f : Field) : Constraint := ⟨f.shape.fits (value f.name), f.name, value f.name, f.shape.demand⟩

/-- a suffix begins with a point -/
def suffixConstraint (key suffix : String) : Constraint :=
  ⟨suffix.startsWith ".", key, suffix, "extensions must start with '.'"⟩

/-- the constraints on single values -/
def valueConstraints : List Constraint :=
  [⟨!Text.isAllBlank (textOf (value "target_branch")), "target_branch", textOf (value "target_branch"), "must not be empty"⟩,
   ⟨(DiffSource.ofWord? (textOf (value "diff_source"))).isSome, "diff_source", textOf (value "diff_source"),
      "must be one of " ++ ", ".intercalate (DiffSource.all.map DiffSource.word)⟩,
   ⟨0 < intOf (value "transport_port") && intOf (value "transport_port") < 65536, "transport_port",
      .int (intOf (value "transport_port")), "must be in 1..65535"⟩,
   ⟨!(secondsOf (value "send_timeout_seconds")).isNegative, "send_timeout_seconds",
      (secondsOf (value "send_timeout_seconds")).datum, "must be non-negative"⟩,
   ⟨(Verbosity.ofWord? (textOf (value "verbosity"))).isSome, "verbosity", textOf (value "verbosity"),
      "must be quiet, normal or verbose"⟩]

/-- all constraints but that on the pattern, in order -/
def constraints : List Constraint :=
  fields.map (shapeConstraint value) ++ valueConstraints value ++
    ["image_extensions", "formatter_extensions", "documentation_extensions"].flatMap fun key =>
      (textsOf (value key)).map (suffixConstraint key)

/-- the settings with some values -/
def made : Settings where
  targetBranch := textOf (value "target_branch")
  diffSource := (DiffSource.ofWord? (textOf (value "diff_source"))).getD .combined
  excludePaths := textsOf (value "exclude_paths")
  imageExtensions := textsOf (value "image_extensions")
  formatterCommand := textOf (value "formatter_command")
  formatterExtensions := textsOf (value "formatter_extensions")
  formatterExclude := textsOf (value "formatter_exclude")
  formatterPattern := textOf (value "formatter_pattern")
  enableDocumentation := truthOf (value "enable_documentation")
  documentationExtensions := textsOf (value "documentation_extensions")
  transportHost := textOf (value "transport_host")
  transportPort := (intOf (value "transport_port")).toNat
  sendTimeout := secondsOf (value "send_timeout_seconds")
  verbosity := (Verbosity.ofWord? (textOf (value "verbosity"))).getD .normal

end

variable {value : String → Datum} {cs ds : List Constraint} {c : Constraint} {s : Settings} {f : Failure}

/-! ## One after another -/

/-- no constraint is broken when all hold -/
theorem firstBroken?_eq_none : firstBroken? cs = none ↔ ∀ c ∈ cs, c.holds = true := by
  simp [firstBroken?]

variable [Interpreter]

/-- a value that can be written out is reported -/
theorem rejection_of_canBeWritten {d : Datum} (h : CanBeWritten d) (key reason : String) :
    rejection key d reason = .fault (.valueRejected key d reason) := by
  simp [rejection, h.room, h.short]

theorem reject_eq {α : Type} (key : String) (d : Datum) (reason : String) :
    (reject key d reason : Except Failure α) = .error (rejection key d reason) := by
  unfold reject rejection
  cases Interpreter.unwritten? .literal d <;> cases d.hasLongInt <;> rfl

@[simp] theorem checkAll_nil : checkAll [] = .ok () := rfl

theorem checkAll_cons :
    checkAll (c :: cs) = if c.holds then checkAll cs else .error (rejection c.key c.value c.reason) := by
  unfold checkAll firstBroken?
  rw [List.find?_cons]
  cases c.holds <;> rfl

theorem checkAll_append : checkAll (cs ++ ds) = checkAll cs >>= fun _ => checkAll ds := by
  induction cs with
  | nil => rfl
  | cons c cs ih =>
    rw [List.cons_append, checkAll_cons, checkAll_cons, ih]
    cases c.holds <;> rfl

theorem checkShapes_eq (fs : List Field) : checkShapes value fs = checkAll (fs.map (shapeConstraint value)) := by
  induction fs with
  | nil => rfl
  | cons f fs ih =>
    rw [checkShapes, List.map_cons, checkAll_cons, ih]
    cases hfits : f.shape.fits (value f.name) <;> simp [Shape.problem?, shapeConstraint, hfits, reject_eq]

theorem checkSuffixes_eq (key : String) (suffixes : List String) :
    checkSuffixes key suffixes = checkAll (suffixes.map (suffixConstraint key)) := by
  induction suffixes with
  | nil => rfl
  | cons s suffixes ih =>
    rw [checkSuffixes, List.map_cons, checkAll_cons, ih, demand, reject_eq, suffixConstraint]
    cases s.startsWith "." <;> rfl

theorem forIn_checkSuffixes (keys : List String) :
    (forIn keys PUnit.unit fun key _ => do
      checkSuffixes key (textsOf (value key))
      pure (ForInStep.yield PUnit.unit)) =
      checkAll (keys.flatMap fun key => (textsOf (value key)).map (suffixConstraint key)) := by
  induction keys with
  | nil => rfl
  | cons key keys ih =>
    rw [List.forIn_cons, List.flatMap_cons, checkAll_append, ← checkSuffixes_eq, ← ih, bind_assoc]
    rfl

/-- **Validation asks for the constraints in order, then for the pattern** -/
theorem ofValues_eq (value : String → Datum) : ofValues value =
    checkAll (constraints value) >>= fun _ => checkPattern (textOf (value "formatter_pattern")) >>= fun _ =>
      pure (made value) := by
  rw [constraints, checkAll_append, checkAll_append, ofValues, checkShapes_eq]
  simp only [bind_assoc]
  refine congrArg (bind _) (funext fun _ => ?_)
  simp only [valueConstraints, checkAll_cons, checkAll_nil, demand, reject_eq]
  cases hbranch : !Text.isAllBlank (textOf (value "target_branch")) with
  | false => simp only [Bool.false_eq_true, if_false, error_bind]
  | true =>
    cases hsource : DiffSource.ofWord? (textOf (value "diff_source")) with
    | none => simp only [if_true, Option.isSome_none, Bool.false_eq_true, if_false, ok_bind, error_bind]
    | some source =>
      cases hport : (0 < intOf (value "transport_port") && intOf (value "transport_port") < 65536 : Bool) with
      | false => simp only [if_true, Option.isSome_some, Bool.false_eq_true, if_false, ok_bind, error_bind]
      | true =>
        cases htimeout : !(secondsOf (value "send_timeout_seconds")).isNegative with
        | false => simp only [if_true, Option.isSome_some, Bool.false_eq_true, if_false, ok_bind, error_bind]
        | true =>
          cases hverbosity : Verbosity.ofWord? (textOf (value "verbosity")) with
          | none =>
            simp only [if_true, Option.isSome_some, Option.isSome_none, Bool.false_eq_true, if_false, ok_bind, error_bind]
          | some verbosity =>
            simp only [if_true, Option.isSome_some, ok_bind, made, hsource, hverbosity, Option.getD_some, forIn_checkSuffixes]

/-- **What is made when all constraints hold** and the pattern is one -/
theorem ofValues_eq_ok : ofValues value = .ok s ↔
    firstBroken? (constraints value) = none ∧ checkPattern (textOf (value "formatter_pattern")) = .ok () ∧
      s = made value := by
  rw [ofValues_eq, checkAll]
  cases firstBroken? (constraints value) with
  | some c => simp
  | none =>
    cases checkPattern (textOf (value "formatter_pattern")) with
    | error f => simp
    | ok u => exact ⟨fun h => ⟨rfl, rfl, (Except.ok.inj h).symm⟩, fun h => h.2.2 ▸ rfl⟩

/-- **How validation fails**: on the first constraint that does not hold, or on the pattern when all hold -/
theorem ofValues_eq_error : ofValues value = .error f ↔
    (∃ c, firstBroken? (constraints value) = some c ∧ f = rejection c.key c.value c.reason) ∨
      firstBroken? (constraints value) = none ∧ checkPattern (textOf (value "formatter_pattern")) = .error f := by
  rw [ofValues_eq, checkAll]
  cases firstBroken? (constraints value) with
  | none => cases checkPattern (textOf (value "formatter_pattern")) <;> simp [pure, Except.pure]
  | some c => simp [eq_comm]

end ChangeLint.Settings
