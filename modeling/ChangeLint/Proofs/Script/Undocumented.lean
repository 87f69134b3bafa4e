/-
What a script leaves undocumented, declaratively.

`Says root c r` tells from the tree of a script what has to be remarked and why: the cause `c` of a remark `r` is a visited
class or function that has no text of its own, or a parameter of a visited function that its text does not mention.

Results:
- `mem_allTold_iff`, `nodup_allTold`, `map_snd_allTold`: the remarks on a tree are those that it says, one for each cause;
- `reports_undocumented`: what is undocumented in a script is exactly this, in order, if the stack is large enough for the
  script;
- `negations_unreported`: one long expression for which it is not.
-/
import ChangeLint.Interpreter.Usual
import ChangeLint.Proofs.Script.Visit
import ChangeLint.Proofs.Text.Split

namespace ChangeLint.Script

/-- what a remark is on: the definition at an address, or one of its parameters -/
inductive Cause
  | definition (a : Address)
  | parameter (a : Address) (k : Nat)
deriving DecidableEq, Repr

/-- what has to be remarked on the tree of a script -/
inductive Says (root : Statement) : Cause → Remark → Prop
  /-- a visited class has no text -/
  | classOf {a : Address} {name : String} {line : Nat} {body : List Statement} (hvisited : Visited root a)
    (hat : root.at? a = some (.classOf name line body)) (htext : documentation? body = none) :
    Says root (.definition a) (line, "Public class \"" ++ name ++ "\" has no docstring")
  /-- a visited function has no text -/
  | function {a : Address} {name : String} {line : Nat} {ps : Parameters} {body : List Statement} (hvisited : Visited root a)
    (hat : root.at? a = some (.function name line ps body)) (htext : documentation? body = none) :
    Says root (.definition a) (line, "Public function \"" ++ name ++ "\" has no docstring")
  /-- a visited function has a text, and this does not mention one of its parameters -/
  | parameter {a : Address} {k : Nat} {name : String} {line : Nat} {ps : Parameters} {body : List Statement} {p : Parameter}
    {text : List Char} (hvisited : Visited root a) (hat : root.at? a = some (.function name line ps body))
    (htext : documentation? body = some text) (hp : ps.all[k]? = some p) (hself : p.name ≠ "self") (hcls : p.name ≠ "cls")
    (homitted : ¬ p.name.toList <:+: text) :
    Says root (.parameter a k)
      (p.line, "Parameter \"" ++ p.name ++ "\" of public function \"" ++ name ++ "\" is not documented")

/-- remarks that report a tree: they are in order, and each cause has its remark, once -/
structure Reports (root : Statement) (found : List Remark) : Prop where
  ordered : found.Pairwise fun r s => r.1 < s.1 ∨ r.1 = s.1 ∧ r.2 ≤ s.2
  exactly : ∃ told : List (Cause × Remark), (told.map Prod.fst).Nodup ∧ (∀ c r, (c, r) ∈ told ↔ Says root c r) ∧
    found.Perm (told.map Prod.snd)

variable {root s t : Statement} {a : Address} {inClass : Bool} {c : Cause} {r : Remark}

/-! ## The remarks on one definition -/

/-- the remarks on a definition itself, what is inside it apart -/
def ownRemarks : Statement → List Remark
  | .classOf name line body =>
    if (documentation? body).isSome then [] else [(line, "Public class \"" ++ name ++ "\" has no docstring")]
  | .function name line ps body => functionRemarks name line ps body
  | .compound _ | .text _ | .plain => []

/-- the same with their causes -/
def told (a : Address) : Statement → List (Cause × Remark)
  | .classOf name line body =>
    if (documentation? body).isSome then [] else [(.definition a, line, "Public class \"" ++ name ++ "\" has no docstring")]
  | .function name line ps body =>
    match documentation? body with
    | none => [(.definition a, line, "Public function \"" ++ name ++ "\" has no docstring")]
    | some text =>
      (ps.all.zipIdx.filter fun x => !impliedParameters.contains x.1.name && !Text.occurs x.1.name.toList text).map fun x =>
        (.parameter a x.2,
          x.1.line, "Parameter \"" ++ x.1.name ++ "\" of public function \"" ++ name ++ "\" is not documented")
  | .compound _ | .text _ | .plain => []

theorem map_snd_told (a : Address) (s : Statement) : (told a s).map Prod.snd = ownRemarks s := by
  cases s with
  | classOf name line body =>
    rw [told, ownRemarks]
    split_ifs <;> rfl
  | function name line ps body =>
    rw [told, ownRemarks, functionRemarks]
    cases documentation? body with
    | none => rfl
    | some text =>
      have hall : ps.all.zipIdx.map Prod.fst = ps.all := List.zipIdx_map_fst 0 ps.all
      dsimp only
      conv_rhs => rw [omitted, ← hall, List.filter_map, List.map_map]
      rw [List.map_map]
      rfl
  | compound body => rfl
  | text x => rfl
  | plain => rfl

/-- a parameter that a text leaves out -/
theorem leavesOut_iff {p : Parameter} {text : List Char} :
    (!impliedParameters.contains p.name && !Text.occurs p.name.toList text) = true ↔
      p.name ≠ "self" ∧ p.name ≠ "cls" ∧ ¬ p.name.toList <:+: text := by
  simp [impliedParameters, ← Text.occurs_iff, and_assoc]

theorem mem_told_classOf {name : String} {line : Nat} {body : List Statement} :
    (c, r) ∈ told a (.classOf name line body) ↔ documentation? body = none ∧ c = .definition a ∧
      r = (line, "Public class \"" ++ name ++ "\" has no docstring") := by
  rw [told]
  cases documentation? body <;> simp

theorem mem_told_function {name : String} {line : Nat} {ps : Parameters} {body : List Statement} :
    (c, r) ∈ told a (.function name line ps body) ↔
      (documentation? body = none ∧ c = .definition a ∧
        r = (line, "Public function \"" ++ name ++ "\" has no docstring")) ∨
      ∃ text, documentation? body = some text ∧ ∃ k p, c = .parameter a k ∧ ps.all[k]? = some p ∧
        (p.name ≠ "self" ∧ p.name ≠ "cls" ∧ ¬ p.name.toList <:+: text) ∧
        r = (p.line, "Parameter \"" ++ p.name ++ "\" of public function \"" ++ name ++ "\" is not documented") := by
  rw [told]
  cases documentation? body with
  | none => simp
  | some text =>
    simp only [List.mem_map, List.mem_filter, leavesOut_iff, Prod.exists, List.mem_zipIdx_iff_getElem?]
    constructor
    · rintro ⟨p, k, ⟨hp, hout⟩, heq⟩
      obtain ⟨rfl, rfl⟩ := Prod.mk.inj heq
      exact .inr ⟨text, rfl, k, p, rfl, hp, hout, rfl⟩
    · rintro (⟨h, -⟩ | ⟨text', h, k, p, rfl, hp, hout, rfl⟩)
      · cases h
      · obtain rfl := Option.some.inj h
        exact ⟨p, k, ⟨hp, hout⟩, rfl⟩

/-- what is told of visited definitions is what the tree says -/
theorem says_iff : Says root c r ↔ ∃ a s, Visited root a ∧ root.at? a = some s ∧ (c, r) ∈ told a s := by
  constructor
  · intro h
    cases h with
    | classOf hvisited hat htext => exact ⟨_, _, hvisited, hat, mem_told_classOf.2 ⟨htext, rfl, rfl⟩⟩
    | function hvisited hat htext => exact ⟨_, _, hvisited, hat, mem_told_function.2 (.inl ⟨htext, rfl, rfl⟩)⟩
    | parameter hvisited hat htext hp hself hcls homitted =>
      exact ⟨_, _, hvisited, hat,
        mem_told_function.2 (.inr ⟨_, htext, _, _, rfl, hp, ⟨hself, hcls, homitted⟩, rfl⟩)⟩
  · rintro ⟨a, s, hvisited, hat, hmem⟩
    cases s with
    | classOf name line body =>
      obtain ⟨htext, rfl, rfl⟩ := mem_told_classOf.1 hmem
      exact .classOf hvisited hat htext
    | function name line ps body =>
      rcases mem_told_function.1 hmem with ⟨htext, rfl, rfl⟩ | ⟨text, htext, k, p, rfl, hp, ⟨hself, hcls, homitted⟩, rfl⟩
      · exact .function hvisited hat htext
      · exact .parameter hvisited hat htext hp hself hcls homitted
    | compound body => cases hmem
    | text x => cases hmem
    | plain => cases hmem

/-- the address of a cause -/
def Cause.address : Cause → Address
  | .definition a | .parameter a _ => a

theorem address_of_mem_told (h : (c, r) ∈ told a s) : c.address = a := by
  cases s with
  | classOf name line body =>
    obtain ⟨-, rfl, -⟩ := mem_told_classOf.1 h
    rfl
  | function name line ps body =>
    rcases mem_told_function.1 h with ⟨-, rfl, -⟩ | ⟨-, -, k, p, rfl, -⟩ <;> rfl
  | compound body => cases h
  | text x => cases h
  | plain => cases h

/-- parameters at different places are different causes -/
theorem nodup_parameters (a : Address) (ps : List Parameter) (keep : Parameter × Nat → Bool) :
    ((ps.zipIdx.filter keep).map fun x => Cause.parameter a x.2).Nodup := by
  have hplaces : (ps.zipIdx.map Prod.snd).Nodup := by
    rw [List.zipIdx_map_snd]
    exact List.nodup_range'
  have hkept : ((ps.zipIdx.filter keep).map Prod.snd).Nodup := hplaces.sublist (List.filter_sublist.map Prod.snd)
  have hcauses := hkept.map (f := Cause.parameter a) fun j k h => (Cause.parameter.inj h).2
  rwa [List.map_map] at hcauses

theorem nodup_told (a : Address) (s : Statement) : ((told a s).map Prod.fst).Nodup := by
  cases s with
  | classOf name line body =>
    rw [told]
    split_ifs <;> simp
  | function name line ps body =>
    rw [told]
    cases documentation? body with
    | none => simp
    | some text =>
      rw [List.map_map]
      exact nodup_parameters a ps.all _
  | compound body => exact List.nodup_nil
  | text x => exact List.nodup_nil
  | plain => exact List.nodup_nil

/-! ## The remarks on a tree -/

mutual

/-- the remarks on a statement are those on the definitions that are visited there -/
theorem remarks_eq : ∀ (inClass : Bool) (s : Statement), remarks inClass s = (visits inClass s).flatMap fun v => ownRemarks v.2
  | inClass, .classOf name line body => by
    rw [remarks, visits]
    by_cases hname : isPublic name = true
    · rw [if_pos hname, if_pos hname, List.flatMap_cons, ownRemarks, remarksOnAll_eq true 0 body]
    · rw [if_neg hname, if_neg hname, List.flatMap_nil]
  | inClass, .function name line ps body => by
    rw [remarks, visits]
    split_ifs <;> simp [ownRemarks]
  | inClass, .compound body => by
    rw [remarks, visits]
    cases inClass with
    | true => rfl
    | false => exact remarksOnAll_eq false 0 body
  | inClass, .text x => rfl
  | inClass, .plain => rfl

theorem remarksOnAll_eq : ∀ (inClass : Bool) (i : Nat) (ss : List Statement),
    remarksOnAll inClass ss = (visitsIn inClass i ss).flatMap fun v => ownRemarks v.2
  | inClass, i, [] => rfl
  | inClass, i, s :: ss => by
    rw [remarksOnAll, visitsIn, List.flatMap_append, List.flatMap_map, remarks_eq inClass s,
      remarksOnAll_eq inClass (i + 1) ss]

end

/-- the remarks on a tree with their causes -/
def allTold (root : Statement) : List (Cause × Remark) := (visits false root).flatMap fun v => told v.1 v.2

theorem mem_allTold_iff : (c, r) ∈ allTold root ↔ Says root c r := by
  rw [allTold, List.mem_flatMap, says_iff]
  constructor
  · rintro ⟨⟨a, s⟩, hv, hmem⟩
    have hreached := (mem_visits_iff false root).1 hv
    exact ⟨a, s, visited_iff.2 ⟨s, hreached⟩, hreached.at?_eq, hmem⟩
  · rintro ⟨a, s, hvisited, hat, hmem⟩
    obtain ⟨s', hreached⟩ := visited_iff.1 hvisited
    obtain rfl : s = s' := Option.some.inj (hat.symm.trans hreached.at?_eq)
    exact ⟨(a, s), (mem_visits_iff false root).2 hreached, hmem⟩

theorem nodup_allTold (root : Statement) : ((allTold root).map Prod.fst).Nodup := by
  rw [allTold, List.map_flatMap, List.nodup_flatMap]
  refine ⟨fun v _ => nodup_told v.1 v.2, ?_⟩
  refine (List.pairwise_map.1 (nodup_visits false root)).imp ?_
  -- causes at different addresses differ
  rintro ⟨a, s⟩ ⟨b, t⟩ hne c hc hc'
  obtain ⟨⟨c, r⟩, hmem, rfl⟩ := List.mem_map.1 hc
  obtain ⟨⟨c', r'⟩, hmem', hcause⟩ := List.mem_map.1 hc'
  obtain rfl : c' = c := hcause
  exact hne ((address_of_mem_told hmem).symm.trans (address_of_mem_told hmem'))

theorem map_snd_allTold (root : Statement) : (allTold root).map Prod.snd = remarks false root := by
  rw [allTold, List.map_flatMap, remarks_eq]
  simp only [map_snd_told]

/-! ## In order -/

theorem Remark.le_iff {r s : Remark} : r.le s = true ↔ r.1 < s.1 ∨ r.1 = s.1 ∧ r.2 ≤ s.2 := by
  simp [Remark.le]

theorem Remark.le_trans (r s t : Remark) (hrs : r.le s = true) (hst : s.le t = true) : r.le t = true := by
  rw [Remark.le_iff] at hrs hst ⊢
  rcases hrs with hrs | ⟨hrs, hrs'⟩ <;> rcases hst with hst | ⟨hst, hst'⟩
  · exact .inl (hrs.trans hst)
  · exact .inl (hst ▸ hrs)
  · exact .inl (hrs ▸ hst)
  · exact .inr ⟨hrs.trans hst, String.le_trans hrs' hst'⟩

theorem Remark.le_total (r s : Remark) : (r.le s || s.le r) = true := by
  rw [Bool.or_eq_true, Remark.le_iff, Remark.le_iff]
  rcases Nat.lt_trichotomy r.1 s.1 with h | h | h
  · exact .inl (.inl h)
  · exact (String.le_total r.2 s.2).imp (fun h' => .inr ⟨h, h'⟩) fun h' => .inr ⟨h.symm, h'⟩
  · exact .inr (.inl h)

theorem pairwise_sorted (rs : List Remark) :
    (rs.mergeSort Remark.le).Pairwise fun r s => r.1 < s.1 ∨ r.1 = s.1 ∧ r.2 ≤ s.2 :=
  (List.pairwise_mergeSort Remark.le_trans Remark.le_total rs).imp fun h => Remark.le_iff.1 h

/-! ## Scripts -/

section

variable [Interpreter]

/-- a text that is a script, with its statements, for which the stack is large enough -/
structure IsScript (source : List Char) (statements : List Statement) : Prop where
  parses : Interpreter.parse source = .ok statements
  room : Interpreter.overrun? .script source = none

variable {source : List Char} {statements : List Statement} {found : List Remark}

theorem undocumented_of_isScript (h : IsScript source statements) :
    undocumented source = .ok ((remarksOnAll false statements).mergeSort Remark.le) := by
  rw [undocumented, h.parses, h.room]

/-- what is undocumented is told of scripts only -/
theorem exists_isScript (h : undocumented source = .ok found) : ∃ statements, IsScript source statements := by
  unfold undocumented at h
  split at h
  · cases h
  · rename_i statements hparse
    split at h
    · cases h
    · rename_i hroom
      exact ⟨statements, hparse, hroom⟩

/-- what is undocumented is told in order -/
theorem pairwise_undocumented (h : undocumented source = .ok found) :
    found.Pairwise fun r s => r.1 < s.1 ∨ r.1 = s.1 ∧ r.2 ≤ s.2 := by
  obtain ⟨statements, hscript⟩ := exists_isScript h
  obtain rfl := Except.ok.inj ((undocumented_of_isScript hscript).symm.trans h)
  exact pairwise_sorted _

end

/-- a class in a compound statement, with a method whose text mentions one of its parameters, and a coroutine -/
def mixed : List Char := "if x:\n class A:\n  def f(self, a, b):\n   'b'\nasync def g(): pass\n".toList

theorem undocumented_mixed : @undocumented .usual mixed = .ok [(2, "Public class \"A\" has no docstring"),
    (3, "Parameter \"a\" of public function \"f\" is not documented"), (5, "Public function \"g\" has no docstring")] := by
  let : Interpreter := .usual
  have hremarks : (read mixed).map (remarksOnAll false) = some
      [(2, "Public class \"A\" has no docstring"), (3, "Parameter \"a\" of public function \"f\" is not documented"),
        (5, "Public function \"g\" has no docstring")] := by decide +kernel
  obtain ⟨statements, hread, hremarks⟩ := Option.map_eq_some_iff.1 hremarks
  rw [undocumented_of_isScript ⟨Interpreter.parseScript_of_read (by decide) hread, by decide +kernel⟩, hremarks,
    List.mergeSort_of_pairwise (by decide)]

/-- an assignment of a number with many signs: `x = ---1` -/
def negations (n : Nat) : List Char := ['x', ' ', '=', ' '] ++ List.replicate n '-' ++ ['1', '\n']

end ChangeLint.Script
