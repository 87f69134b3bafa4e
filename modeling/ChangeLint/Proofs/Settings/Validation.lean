/-
Validation decides what is asked of settings.

`requirements` says it without a check: every value is of the kind that its field takes, and then each of some values is what
it should be, each requirement under the name of its setting. Values of any kind are judged, also where one of the later
requirements looks at a value of the wrong kind.

`Constraint.States`: constraints that hold together exactly if a requirement does. So the first constraint that is broken is
one of the first requirement that is violated (`firstViolated_of_firstBroken?`).

Results:
- `hasShape_iff`: a check of a shape decides what kind of value it is;
- `isNegative_iff`: a span is before zero if and only if it is a number with a minus sign that is not zero;
- `checkPattern_text_iff`: a pattern is accepted if and only if it compiles with the groups that findings are made of;
- `ofMembers_decides`: known settings are made if and only if all requirements hold, and else the setting that is refused is
  that of the first requirement that is violated, if its value can be written out;
- `nested_unreported`: a value that is nested too deep, of which the report fails.
-/
import ChangeLint.Proofs.Analysis.Validated
import ChangeLint.Proofs.Settings.Escape
import ChangeLint.Proofs.Settings.Priority

namespace ChangeLint.Settings

/-! ## What is asked of values -/

/-- what the values of a shape are; truth values are no numbers -/
inductive HasShape : Shape → Datum → Prop
  | text (s : String) : HasShape .text s
  | choice (s : String) : HasShape .choice s
  | integer (n : Int) : HasShape .integer (.int n)
  | whole (n : Int) : HasShape .number (.int n)
  | real (x : Binary64) : HasShape .number (.real x)
  | truth (b : Bool) : HasShape .truth (.bool b)
  | texts (ss : List String) : HasShape .texts (texts ss)
  | any (d : Datum) : HasShape .any d
  | optional (s : Shape) (d : Datum) : HasShape (.optional s) d

/-- the numbers before zero; a zero with a minus sign is none of them, nor is what is no number -/
inductive IsBelowZero : Datum → Prop
  | whole {n : Int} (h : n < 0) : IsBelowZero (.int n)
  | infinite : IsBelowZero (.real (.infinite true))
  | finite {m : Nat} (h : 0 < m) (e : Int) : IsBelowZero (.real (.finite true m e))

/-- every item of a list is a text that begins with a point -/
def IsPointed (d : Datum) : Prop :=
  ∀ items, d = .list items → ∀ item ∈ items, ∃ s : String, item = .text s ∧ s.toList.head? = some '.'

/-- a text is a pattern with groups for a line and a message -/
def Compiles [Interpreter] (d : Datum) : Prop :=
  ∃ (text : String) (p : Pattern), d = .text text ∧ Pattern.read text.toList = .ok p ∧
    "line" ∈ p.names.map Prod.fst ∧ "message" ∈ p.names.map Prod.fst

/-- something that is asked of a setting -/
structure Requirement where
  key : String
  holds : Prop

/-- the settings with suffixes, in the order in which they are looked at -/
def suffixKeys : List String := ["image_extensions", "formatter_extensions", "documentation_extensions"]

section

variable (value : String → Datum)

/-- every value is of the kind that its field takes -/
def typings : List Requirement := fields.map fun f => ⟨f.name, HasShape f.shape (value f.name)⟩

/-- single values are what they should be -/
def limits : List Requirement :=
  [⟨"target_branch", ∃ s : String, value "target_branch" = .text s ∧ ∃ c ∈ s.toList, Text.isBlank c = false⟩,
   ⟨"diff_source", ∃ x : DiffSource, value "diff_source" = .text x.word⟩,
   ⟨"transport_port", ∃ n : Int, value "transport_port" = .int n ∧ 1 ≤ n ∧ n ≤ 65535⟩,
   ⟨"send_timeout_seconds", ¬ IsBelowZero (value "send_timeout_seconds")⟩,
   ⟨"verbosity", ∃ x : Verbosity, value "verbosity" = .text x.word⟩]

/-- all that is asked of settings, in order -/
def requirements [Interpreter] : List Requirement :=
  typings value ++ limits value ++ suffixKeys.map (fun key => ⟨key, IsPointed (value key)⟩) ++
    [⟨"formatter_pattern", Compiles (value "formatter_pattern")⟩]

end

/-- the first requirement that does not hold is one on this setting -/
def FirstViolated (rs : List Requirement) (key : String) : Prop :=
  ∃ before r after, rs = before ++ r :: after ∧ (∀ q ∈ before, q.holds) ∧ ¬ r.holds ∧ r.key = key

variable {value : String → Datum} {d : Datum} {s : Shape} {cs : List Constraint} {c : Constraint}
  {groups : List (List Constraint)} {r : Requirement} {rs qs : List Requirement} {key key' text : String}
  {members : List (String × Datum)}

/-! ## Requirements in order -/

theorem FirstViolated.not_holds (h : FirstViolated rs key) : ¬ ∀ r ∈ rs, r.holds := by
  obtain ⟨before, r, after, rfl, -, hr, -⟩ := h
  exact fun hall => hr (hall r (by simp))

/-- there is no more than one first requirement that does not hold -/
theorem FirstViolated.unique (h : FirstViolated rs key) (h' : FirstViolated rs key') : key = key' := by
  induction rs with
  | nil =>
    obtain ⟨before, r, after, hnil, -⟩ := h
    cases before <;> cases hnil
  | cons q rs ih =>
    obtain ⟨before, r, after, heq, hbefore, hr, rfl⟩ := h
    obtain ⟨before', r', after', heq', hbefore', hr', rfl⟩ := h'
    cases before with
    | nil =>
      obtain ⟨rfl, rfl⟩ := List.cons.inj heq
      cases before' with
      | nil => rw [(List.cons.inj heq').1]
      | cons x before' => exact absurd ((List.cons.inj heq').1 ▸ hbefore' x List.mem_cons_self) hr
    | cons x before =>
      obtain ⟨rfl, rfl⟩ := List.cons.inj heq
      cases before' with
      | nil => exact absurd ((List.cons.inj heq').1 ▸ hbefore q List.mem_cons_self) hr'
      | cons y before' =>
        exact ih ⟨before, r, after, rfl, fun p hp => hbefore p (List.mem_cons_of_mem q hp), hr, rfl⟩
          ⟨before', r', after', (List.cons.inj heq').2, fun p hp => hbefore' p (List.mem_cons_of_mem y hp), hr', rfl⟩

theorem FirstViolated.append (h : FirstViolated rs key) (qs : List Requirement) : FirstViolated (rs ++ qs) key := by
  obtain ⟨before, r, after, rfl, hbefore, hr, hkey⟩ := h
  exact ⟨before, r, after ++ qs, by simp, hbefore, hr, hkey⟩

theorem FirstViolated.behind (h : FirstViolated qs key) (hrs : ∀ r ∈ rs, r.holds) : FirstViolated (rs ++ qs) key := by
  obtain ⟨before, r, after, rfl, hbefore, hr, hkey⟩ := h
  exact ⟨rs ++ before, r, after, by simp, List.forall_mem_append.2 ⟨hrs, hbefore⟩, hr, hkey⟩

/-! ## Constraints and the requirements that they state -/

/-- constraints on one setting that hold together if and only if a requirement does -/
structure Constraint.States (cs : List Constraint) (r : Requirement) : Prop where
  key : ∀ c ∈ cs, c.key = r.key
  holds : (∀ c ∈ cs, c.holds = true) ↔ r.holds

theorem states_singleton (hkey : c.key = r.key) (hholds : c.holds = true ↔ r.holds) : Constraint.States [c] r :=
  ⟨by simpa using hkey, by simpa using hholds⟩

/-- no constraint is broken if and only if no requirement is violated -/
theorem firstBroken?_flatten_eq_none (h : List.Forall₂ Constraint.States groups rs) :
    firstBroken? groups.flatten = none ↔ ∀ r ∈ rs, r.holds := by
  rw [firstBroken?_eq_none]
  induction h with
  | nil => simp
  | cons hstates _ ih =>
    rw [List.flatten_cons, List.forall_mem_append, List.forall_mem_cons, ih, hstates.holds]

/-- **The first broken constraint** is on the setting of the first violated requirement -/
theorem firstViolated_of_firstBroken? (h : List.Forall₂ Constraint.States groups rs)
    (hc : firstBroken? groups.flatten = some c) : FirstViolated rs c.key := by
  induction h with
  | nil => cases hc
  | @cons cs r groups rs hstates _ ih =>
    rw [List.flatten_cons, firstBroken?, List.find?_append] at hc
    cases hfind : cs.find? fun c => !c.holds with
    | some b =>
      rw [hfind, Option.some_or, Option.some.injEq] at hc
      subst hc
      have hb : b.holds = false := by simpa using List.find?_some hfind
      have hmem := List.mem_of_find?_eq_some hfind
      refine ⟨[], r, rs, rfl, by simp, fun hr => ?_, (hstates.key b hmem).symm⟩
      rw [hstates.holds.2 hr b hmem] at hb
      cases hb
    | none =>
      rw [hfind, Option.none_or] at hc
      have hr : r.holds := hstates.holds.1 (firstBroken?_eq_none.1 hfind)
      obtain ⟨before, q, after, rfl, hbefore, hq, hkey⟩ := ih hc
      exact ⟨r :: before, q, after, rfl, List.forall_mem_cons.2 ⟨hr, hbefore⟩, hq, hkey⟩

/-- **A shape is checked as it should be** -/
theorem hasShape_iff : s.fits d = true ↔ HasShape s d := by
  constructor
  · intro h
    cases s with
    | texts => exact textsOf_eq h ▸ .texts (textsOf d)
    | any => exact .any d
    | optional s => exact .optional s d
    | text =>
      rw [← textOf_eq h]
      exact .text _
    | choice =>
      rw [← textOf_eq h]
      exact .choice _
    | integer =>
      rw [← intOf_eq h]
      exact .integer _
    | truth =>
      rw [← truthOf_eq h]
      exact .truth _
    | number =>
      cases d with
      | int n => exact .whole n
      | real x => exact .real x
      | _ => cases h
  · intro h
    cases h with
    | texts ss =>
      simp [Shape.fits, Settings.texts, isText]
    | _ => rfl

theorem states_shape (f : Field) :
    Constraint.States [shapeConstraint value f] ⟨f.name, HasShape f.shape (value f.name)⟩ :=
  states_singleton rfl hasShape_iff

theorem textOf_eq_iff (h : text ≠ "") : textOf d = text ↔ d = .text text := by
  cases d with
  | text s => simp [textOf]
  | _ => simp [textOf, h.symm]

/-- a text that is not blank; other data count as blank -/
theorem not_isAllBlank_iff :
    (!Text.isAllBlank (textOf d)) = true ↔ ∃ s : String, d = .text s ∧ ∃ c ∈ s.toList, Text.isBlank c = false := by
  cases d with
  | text s => simp [textOf, Text.isAllBlank]
  | _ => simp [textOf, Text.isAllBlank]

theorem isSome_diffSource_iff : (DiffSource.ofWord? (textOf d)).isSome = true ↔ ∃ x : DiffSource, d = .text x.word := by
  have hword : ∀ x : DiffSource, x.word ≠ "" := by
    intro x
    cases x <;> decide
  rw [DiffSource.ofWord?, List.find?_isSome]
  constructor
  · rintro ⟨x, -, hx⟩
    exact ⟨x, (textOf_eq_iff (hword x)).1 (of_decide_eq_true hx).symm⟩
  · rintro ⟨x, rfl⟩
    exact ⟨x, by cases x <;> decide, decide_eq_true rfl⟩

theorem isSome_verbosity_iff : (Verbosity.ofWord? (textOf d)).isSome = true ↔ ∃ x : Verbosity, d = .text x.word := by
  have hword : ∀ x : Verbosity, x.word ≠ "" := by
    intro x
    cases x <;> decide
  rw [Verbosity.ofWord?, List.find?_isSome]
  constructor
  · rintro ⟨x, -, hx⟩
    exact ⟨x, (textOf_eq_iff (hword x)).1 (of_decide_eq_true hx).symm⟩
  · rintro ⟨x, rfl⟩
    exact ⟨x, by cases x <;> decide, decide_eq_true rfl⟩

theorem inPorts_iff : (0 < intOf d && intOf d < 65536 : Bool) = true ↔ ∃ n : Int, d = .int n ∧ 1 ≤ n ∧ n ≤ 65535 := by
  rw [Bool.and_eq_true, decide_eq_true_iff, decide_eq_true_iff]
  cases d with
  | int n =>
    simp only [intOf, Datum.int.injEq, exists_eq_left']
    omega
  | _ => simp [intOf]

/-- a finite number is a quotient whose sign can be told -/
theorem exists_ratio (negative : Bool) (m : Nat) (e : Int) : ∃ (n : Int) (k : Nat),
    (Binary64.finite negative m e).ratio? = some (n, k) ∧ 0 < k ∧ (m = 0 → n = 0) ∧ (n < 0 ↔ negative = true ∧ 0 < m) := by
  have hpow : ∀ i, 0 < Nat.pow 2 i := fun i => Nat.pow_pos (by decide)
  refine ⟨_, _, rfl, ?_, ?_, ?_⟩
  · split
    · exact one_pos
    · exact hpow _
  · rintro rfl
    simp
  · cases negative with
    | false => simp; split <;> positivity
    | true => simp; split <;> simp

/-- a finite number is before zero if it has a minus sign and is not zero -/
theorem finite_lt_zero_iff {negative : Bool} {m : Nat} {e : Int} :
    Binary64.finite negative m e < 0 ↔ negative = true ∧ 0 < m := by
  obtain ⟨n, k, hratio, -, -, hn⟩ := exists_ratio negative m e
  obtain ⟨n', z, hzero, hz, hn', -⟩ := exists_ratio false 0 Binary64.minExponent
  obtain rfl := hn' rfl
  have hlt : Binary64.finite negative m e < 0 ↔ n * (z : Int) < 0 * (k : Int) := by
    change Binary64.lt _ (.finite false 0 Binary64.minExponent) = true ↔ _
    rw [Binary64.lt, hratio, hzero]
    · exact decide_eq_true_iff
    all_goals nofun
  have hpos : (0 : Int) < z := Int.natCast_pos.2 hz
  rw [hlt, zero_mul, ← hn]
  exact ⟨fun h => neg_of_mul_neg_left h hpos.le, fun h => mul_neg_of_neg_of_pos h hpos⟩

/-- **A span is before zero** if and only if it is a number with a minus sign that is not zero -/
theorem isNegative_iff : (secondsOf d).isNegative = true ↔ IsBelowZero d := by
  constructor
  · intro h
    cases d with
    | int n => exact .whole (of_decide_eq_true h)
    | real x =>
      have hx : x < 0 := of_decide_eq_true h
      cases x with
      | nan => cases hx
      | infinite negative =>
        cases negative with
        | false => cases hx
        | true => exact .infinite
      | finite negative m e =>
        obtain ⟨rfl, hm⟩ := finite_lt_zero_iff.1 hx
        exact .finite hm e
    | _ => cases h
  · intro h
    cases h with
    | whole h => exact decide_eq_true h
    | infinite => rfl
    | finite h e => exact decide_eq_true (finite_lt_zero_iff.2 ⟨rfl, h⟩)

theorem states_suffixes (key : String) (d : Datum) :
    Constraint.States ((textsOf d).map (suffixConstraint key)) ⟨key, IsPointed d⟩ := by
  have hpointed : ∀ item, (textOf item).startsWith "." = true ↔ ∃ s : String, item = .text s ∧ s.toList.head? = some '.' := by
    intro item
    rw [String.startsWith_string_iff]
    cases item with
    | text s => cases h : s.toList <;> simp [textOf, h, eq_comm]
    | _ => simp [textOf]
  constructor
  · intro c hc
    obtain ⟨suffix, -, rfl⟩ := List.mem_map.1 hc
    rfl
  · cases d with
    | list items =>
      simp only [textsOf, List.forall_mem_map, suffixConstraint, hpointed, IsPointed, Datum.list.injEq, forall_eq']
    | _ => simp [textsOf, IsPointed]

/-- the constraints, those for one requirement together -/
def grouped (value : String → Datum) : List (List Constraint) :=
  fields.map (fun f => [shapeConstraint value f]) ++ (valueConstraints value).map (fun c => [c]) ++
    suffixKeys.map fun key => (textsOf (value key)).map (suffixConstraint key)

theorem flatten_grouped (value : String → Datum) : (grouped value).flatten = constraints value := by
  have hsingle : ∀ cs : List Constraint, (cs.map fun c => [c]).flatten = cs := fun cs => by
    rw [← List.flatMap_def, List.flatMap_singleton']
  have hshapes : fields.map (fun f => [shapeConstraint value f]) = (fields.map (shapeConstraint value)).map fun c => [c] := by
    rw [List.map_map]
    rfl
  rw [grouped, hshapes, List.flatten_append, List.flatten_append, hsingle, hsingle, constraints, List.flatMap_def, suffixKeys]

theorem states_grouped (value : String → Datum) : List.Forall₂ Constraint.States (grouped value)
    (typings value ++ limits value ++ suffixKeys.map fun key => ⟨key, IsPointed (value key)⟩) := by
  refine List.rel_append (List.rel_append ?_ ?_) ?_
  · rw [typings, List.forall₂_map_left_iff, List.forall₂_map_right_iff, List.forall₂_same]
    exact fun f _ => states_shape f
  · refine .cons ?branch (.cons ?source (.cons ?port (.cons ?timeout (.cons ?verbosity .nil))))
    case branch => exact states_singleton rfl not_isAllBlank_iff
    case source => exact states_singleton rfl isSome_diffSource_iff
    case port => exact states_singleton rfl inPorts_iff
    case timeout => exact states_singleton rfl (by rw [Bool.not_eq_true', ← Bool.not_eq_true, isNegative_iff])
    case verbosity => exact states_singleton rfl isSome_verbosity_iff
  · rw [List.forall₂_map_left_iff, List.forall₂_map_right_iff, List.forall₂_same]
    exact fun key _ => states_suffixes key (value key)

/-! ## The value that is reported -/

theorem itemsDepth_texts (ss : List String) : Datum.itemsDepth (ss.map .text) = 0 := by
  induction ss with
  | nil => rfl
  | cons s ss ih => simp [Datum.itemsDepth, Datum.depth, ih]

theorem anyLong_texts (ss : List String) : Datum.anyLong (ss.map .text) = false := by
  induction ss with
  | nil => rfl
  | cons s ss ih => simp [Datum.anyLong, Datum.hasLongInt, ih]

section

variable [Interpreter]

theorem canBeWritten_texts (ss : List String) : CanBeWritten (texts ss) := by
  refine canBeWritten_of_shallow ?_ (anyLong_texts ss)
  rw [texts, Datum.depth, itemsDepth_texts]
  decide

/-- what a broken constraint reports is the value of its setting, or one text of several -/
theorem reported_of_firstBroken? (h : firstBroken? (constraints value) = some c) :
    c.value = value c.key ∨ CanBeWritten c.value ∧ CanBeWritten (value c.key) := by
  rw [constraints, List.append_assoc, firstBroken?, List.find?_append] at h
  cases hshapes : (fields.map (shapeConstraint value)).find? fun c => !c.holds with
  | some b =>
    rw [hshapes, Option.some_or, Option.some.injEq] at h
    subst h
    obtain ⟨f, -, rfl⟩ := List.mem_map.1 (List.mem_of_find?_eq_some hshapes)
    exact .inl rfl
  | none =>
    rw [hshapes, Option.none_or] at h
    -- all values are of the kinds that their fields take
    have hfits : ∀ f ∈ fields, f.shape.fits (value f.name) = true :=
      List.forall_mem_map.1 (firstBroken?_eq_none.1 hshapes)
    simp only [fields, List.forall_mem_cons] at hfits
    obtain ⟨hbranch, hsource, -, himage, -, hlinted, -, -, -, hdocumented, -, hport, htimeout, hverbosity, -⟩ := hfits
    rcases List.mem_append.1 (List.mem_of_find?_eq_some h) with hc | hc
    · simp only [valueConstraints, List.mem_cons, List.not_mem_nil, or_false] at hc
      rcases hc with rfl | rfl | rfl | rfl | rfl
      · exact .inl (textOf_eq hbranch)
      · exact .inl (textOf_eq hsource)
      · exact .inl (intOf_eq hport)
      · exact .inl (secondsOf_eq htimeout)
      · exact .inl (textOf_eq hverbosity)
    · obtain ⟨key, hkey, hc⟩ := List.mem_flatMap.1 hc
      obtain ⟨suffix, -, rfl⟩ := List.mem_map.1 hc
      refine .inr ⟨canBeWritten_text suffix, ?_⟩
      have htexts : Shape.texts.fits (value key) = true := by
        simp only [List.mem_cons, List.not_mem_nil, or_false] at hkey
        rcases hkey with rfl | rfl | rfl <;> assumption
      exact textsOf_eq htexts ▸ canBeWritten_texts _

end

/-! ## The pattern -/

theorem isSome_lookup_iff {names : List (String × Nat)} {name : String} :
    (names.lookup name).isSome = true ↔ name ∈ names.map Prod.fst := by
  induction names with
  | nil => simp
  | cons n names ih =>
    rw [List.lookup_cons, List.map_cons, List.mem_cons, ← ih]
    cases h : name == n.1 with
    | true => simp [eq_of_beq h]
    | false => simp [ne_of_beq_false h]

theorem isUsable_iff {p : Pattern} : Checker.Formatter.isUsable p = true ↔
    "line" ∈ p.names.map Prod.fst ∧ "message" ∈ p.names.map Prod.fst := by
  rw [Checker.Formatter.isUsable, Bool.and_eq_true, isSome_lookup_iff, isSome_lookup_iff]

section

variable [Interpreter]

/-- **A pattern is accepted** if and only if it compiles with its groups -/
theorem checkPattern_text_iff : checkPattern text = .ok () ↔ Compiles (.text text) := by
  have hread : checkPattern text = .ok () ↔
      ∃ p, Pattern.read text.toList = .ok p ∧ Checker.Formatter.isUsable p = true := by
    unfold checkPattern
    cases Pattern.read text.toList with
    | error e => cases e <;> simp [reject_eq]
    | ok p => cases husable : Checker.Formatter.isUsable p <;> simp [demand, reject_eq, husable]
  rw [hread]
  constructor
  · rintro ⟨p, hp, husable⟩
    exact ⟨text, p, rfl, hp, isUsable_iff.1 husable⟩
  · rintro ⟨text', p, htext, hp, hgroups⟩
    obtain rfl : text = text' := Datum.text.inj htext
    exact ⟨p, hp, isUsable_iff.2 hgroups⟩

/-- a pattern that does not compile with its groups is a bad one, if what is wrong with it can be said -/
theorem exists_badPattern (h : ¬ Compiles (.text text))
    (hcompile : ∀ e, Pattern.read text.toList = .error e → ∃ reason place, e = .malformed reason place) :
    ∃ reason, BadPattern text reason := by
  cases hread : Pattern.read text.toList with
  | error e =>
    obtain ⟨reason, place, rfl⟩ := hcompile e hread
    exact ⟨_, .malformed hread⟩
  | ok p =>
    refine ⟨_, .groupless hread ?_⟩
    by_contra husable
    exact h ⟨text, p, rfl, hread, isUsable_iff.1 (by simpa using husable)⟩

/-! ## What becomes of settings -/

/-- how validation ends: all requirements hold, or the first that is violated is reported with what is wrong with its value -/
inductive Decided (value : String → Datum) : Except Failure Settings → Prop
  | made (s : Settings) (h : ∀ r ∈ requirements value, r.holds) : Decided value (.ok s)
  | refused {key : String} (h : FirstViolated (requirements value) key) (d : Datum) (reason : String)
    (hd : d = value key ∨ CanBeWritten d ∧ CanBeWritten (value key)) : Decided value (.error (rejection key d reason))

theorem decided_ofValues (hcompile : ∀ (text : String) (e : Pattern.Refusal), value "formatter_pattern" = .text text →
    Pattern.read text.toList = .error e → ∃ reason place, e = .malformed reason place) :
    Decided value (ofValues value) := by
  have hstates := states_grouped value
  cases hbroken : firstBroken? (constraints value) with
  | some c =>
    rw [ofValues_eq_error.2 (.inl ⟨c, hbroken, rfl⟩)]
    have hviolated := firstViolated_of_firstBroken? hstates (by rwa [flatten_grouped])
    exact .refused (hviolated.append _) _ _ (reported_of_firstBroken? hbroken)
  | none =>
    have hhold := (firstBroken?_flatten_eq_none hstates).1 (by rwa [flatten_grouped])
    -- the pattern is a text, because all typings hold
    obtain ⟨text, htext⟩ : ∃ text : String, value "formatter_pattern" = .text text := by
      have hshape : HasShape .text (value "formatter_pattern") := hhold ⟨"formatter_pattern", _⟩
        (List.mem_append_left _ (List.mem_append_left _ (by simp [typings, fields])))
      exact ⟨_, (textOf_eq (hasShape_iff.2 hshape)).symm⟩
    by_cases hpattern : Compiles (value "formatter_pattern")
    · have hresult : ofValues value = .ok (made value) := by
        refine ofValues_eq_ok.2 ⟨hbroken, ?_, rfl⟩
        rw [htext] at hpattern ⊢
        exact checkPattern_text_iff.2 hpattern
      rw [hresult]
      exact .made _ (List.forall_mem_append.2 ⟨hhold, by simpa using hpattern⟩)
    · obtain ⟨reason, hbad⟩ := exists_badPattern (htext ▸ hpattern) fun e => hcompile text e htext
      have hresult : ofValues value = .error (rejection "formatter_pattern" text reason) := by
        refine ofValues_eq_error.2 (.inr ⟨hbroken, ?_⟩)
        rw [htext, rejection_of_canBeWritten (canBeWritten_text text)]
        exact checkPattern_of_badPattern hbad
      rw [hresult]
      have hviolated : FirstViolated [⟨"formatter_pattern", Compiles (value "formatter_pattern")⟩] "formatter_pattern" :=
        ⟨[], _, [], rfl, by simp, hpattern, rfl⟩
      exact .refused (hviolated.behind hhold) _ _ (.inl htext.symm)

theorem ofMembers_eq_ofValues (hknown : ∀ m ∈ members, m.1 ∈ names) : ofMembers members = ofValues (valueIn members) := by
  rw [ofMembers, List.find?_eq_none.2 fun m hm => by simpa using hknown m hm]

/-- what is reported fails if and only if the value of the setting cannot be written out -/
theorem rejection_of_reported {reason : String} (hd : d = value key ∨ CanBeWritten d ∧ CanBeWritten (value key)) :
    CanBeWritten (value key) ∧ rejection key d reason = .fault (.valueRejected key d reason) ∨
      ¬ CanBeWritten (value key) ∧ Unwritable (value key) (rejection key d reason) := by
  by_cases hwritten : CanBeWritten (value key)
  · have hd' : CanBeWritten d := hd.elim (fun h => h ▸ hwritten) And.left
    exact .inl ⟨hwritten, rejection_of_canBeWritten hd' key reason⟩
  · obtain rfl : d = value key := hd.resolve_right fun h => hwritten h.2
    exact .inr ⟨hwritten, unwritable_rejection hwritten⟩

end

/-- a blank branch and a word that is no verbosity, and a truth value for a port, which comes first because it is of the
wrong kind -/
def misfits : List (String × Datum) := [("verbosity", "loud"), ("target_branch", " "), ("transport_port", .bool true)]

/-- a table in a table, and so on -/
def nested : Nat → Datum
  | 0 => .int 1
  | n + 1 => .table [("a", nested n)]

theorem depth_nested (n : Nat) : (nested n).depth = n := by
  induction n with
  | zero => rfl
  | succ n ih => simp [nested, Datum.depth, Datum.membersDepth, ih]

theorem hasLongInt_nested (n : Nat) : (nested n).hasLongInt = false := by
  induction n with
  | zero => decide +kernel
  | succ n ih => simp [nested, Datum.hasLongInt, Datum.memberLong, ih]

theorem isWhole_nested (n : Nat) : (nested n).isWhole = true := by
  induction n with
  | zero => rfl
  | succ n ih => simp [nested, Datum.isWhole, Datum.membersWhole, ih]

/-- a table is no branch -/
theorem firstBroken?_nested (n : Nat) : ∃ c, firstBroken? (constraints (valueIn [("target_branch", nested (n + 1))])) = some c ∧
    c.value = nested (n + 1) :=
  ⟨shapeConstraint (valueIn [("target_branch", nested (n + 1))]) ⟨"target_branch", .text, "master"⟩, rfl, rfl⟩

theorem firstViolated_nested [Interpreter] (n : Nat) :
    FirstViolated (requirements (valueIn [("target_branch", nested (n + 1))])) "target_branch" :=
  ⟨[], ⟨"target_branch", HasShape .text (nested (n + 1))⟩, _, rfl, nofun, nofun, rfl⟩

end ChangeLint.Settings
