/-
Which definitions of a script are looked at.

A script is one compound statement of its statements; an `Address` leads from it inwards. `Visited` says it from the tree
alone: a public definition is visited if only compound statements enclose it, or if it stands directly in a visited class.
`visits` goes through the tree once, and remembers only whether it stands in a class.

Results:
- `visited_iff`: what is visited is what can be reached by steps of that kind (`Reached`);
- `mem_visits_iff`, `nodup_visits`: `visits` lists it, each address once.
-/
import ChangeLint.Script.Documentation
import Mathlib.Data.List.Nodup
import Mathlib.Tactic

namespace ChangeLint.Script

/-- the places to take one after another, from a statement inwards -/
abbrev Address := List Nat

namespace Statement

/-- the statements directly inside -/
def inner : Statement → List Statement
  | .classOf _ _ body | .function _ _ _ body | .compound body => body
  | .text _ | .plain => []

/-- the statement at an address -/
def at? (s : Statement) : Address → Option Statement
  | [] => some s
  | i :: a => s.inner[i]?.bind (·.at? a)

/-- a class or a function, as the name that it defines -/
def definedName? : Statement → Option String
  | .classOf name _ _ | .function name _ _ _ => some name
  | .compound _ | .text _ | .plain => none

/-- a class or a function with a public name -/
def DefinesPublic (s : Statement) : Prop := ∃ name, s.definedName? = some name ∧ isPublic name = true

/-- only compound statements enclose what is at an address -/
def Outside (s : Statement) (a : Address) : Prop := ∀ b, b <+: a → b ≠ a → ∃ inner, s.at? b = some (.compound inner)

end Statement

/-- a definition that is visited -/
inductive Visited (root : Statement) : Address → Prop
  /-- no class and no function encloses it -/
  | outside {a : Address} {s : Statement} (hs : root.at? a = some s) (hpublic : s.DefinesPublic) (houtside : root.Outside a) :
    Visited root a
  /-- it stands directly in a visited class -/
  | member {a : Address} {i line : Nat} {name : String} {body : List Statement} {s : Statement} (hclass : Visited root a)
    (hat : root.at? a = some (.classOf name line body)) (hs : body[i]? = some s) (hpublic : s.DefinesPublic) :
    Visited root (a ++ [i])

/-- a public definition is reached from a statement by steps into compound statements, and then into classes -/
inductive Reached : Bool → Statement → Address → Statement → Prop
  | here {inClass : Bool} {s : Statement} (h : s.DefinesPublic) : Reached inClass s [] s
  | member {inClass : Bool} {name : String} {line i : Nat} {body : List Statement} {s t : Statement} {a : Address}
    (hname : isPublic name = true) (hs : body[i]? = some s) (h : Reached true s a t) :
    Reached inClass (.classOf name line body) (i :: a) t
  | inside {i : Nat} {body : List Statement} {s t : Statement} {a : Address} (hs : body[i]? = some s)
    (h : Reached false s a t) : Reached false (.compound body) (i :: a) t

mutual

/-- the definitions that are visited at and in a statement; `inClass` when it stands directly in a class -/
def visits (inClass : Bool) : Statement → List (Address × Statement)
  | .classOf name line body =>
    if isPublic name then ([], .classOf name line body) :: visitsIn true 0 body else []
  | .function name line ps body => if isPublic name then [([], .function name line ps body)] else []
  | .compound body => if inClass then [] else visitsIn false 0 body
  | .text _ | .plain => []

/-- those in some statements, the first of which is at place `i` -/
def visitsIn (inClass : Bool) (i : Nat) : List Statement → List (Address × Statement)
  | [] => []
  | s :: ss => (visits inClass s).map (fun v => (i :: v.1, v.2)) ++ visitsIn inClass (i + 1) ss

end

variable {root s t : Statement} {a b : Address} {i : Nat} {inClass : Bool}

/-! ## Addresses -/

theorem at?_append (s : Statement) (a b : Address) : s.at? (a ++ b) = (s.at? a).bind (·.at? b) := by
  induction a generalizing s with
  | nil => rfl
  | cons i a ih =>
    rw [List.cons_append, Statement.at?, Statement.at?]
    cases s.inner[i]? with
    | none => rfl
    | some c => exact ih c

theorem at?_concat (h : root.at? a = some s) (i : Nat) : root.at? (a ++ [i]) = s.inner[i]? := by
  rw [at?_append, h, Option.bind_some, Statement.at?]
  cases s.inner[i]? <;> rfl

theorem definesPublic_classOf {name : String} {line : Nat} {body : List Statement} :
    (Statement.classOf name line body).DefinesPublic ↔ isPublic name = true := by
  simp [Statement.DefinesPublic, Statement.definedName?]

theorem definesPublic_function {name : String} {line : Nat} {ps : Parameters} {body : List Statement} :
    (Statement.function name line ps body).DefinesPublic ↔ isPublic name = true := by
  simp [Statement.DefinesPublic, Statement.definedName?]

theorem not_definesPublic_compound {body : List Statement} : ¬ (Statement.compound body).DefinesPublic := by
  simp [Statement.DefinesPublic, Statement.definedName?]

theorem outside_nil (s : Statement) : s.Outside [] := fun _ hb hne => absurd (List.prefix_nil.1 hb) hne

/-- a compound statement encloses what is in it, and so does what encloses the compound statement -/
theorem Statement.Outside.concat {body : List Statement} (h : root.Outside a) (ha : root.at? a = some (.compound body))
    (i : Nat) : root.Outside (a ++ [i]) := by
  intro b hb hne
  rcases List.prefix_concat_iff.1 hb with rfl | hb
  · exact absurd rfl hne
  · by_cases hba : b = a
    · exact ⟨body, hba ▸ ha⟩
    · exact h b hb hba

theorem Statement.Outside.tail (h : root.Outside (i :: a)) (hs : root.inner[i]? = some s) : s.Outside a := by
  intro b hb hne
  obtain ⟨body, hbody⟩ := h (i :: b) (List.cons_prefix_cons.2 ⟨rfl, hb⟩) fun heq => hne (List.cons.inj heq).2
  rw [Statement.at?, hs] at hbody
  exact ⟨body, hbody⟩

/-! ## What is visited can be reached -/

theorem Reached.at?_eq (h : Reached inClass s a t) : s.at? a = some t := by
  induction h with
  | here h => rfl
  | member hname hs h ih => rw [Statement.at?, Statement.inner, hs, Option.bind_some, ih]
  | inside hs h ih => rw [Statement.at?, Statement.inner, hs, Option.bind_some, ih]

/-- a public definition that only compound statements enclose is reached -/
theorem reached_of_outside (hs : root.at? a = some s) (hpublic : s.DefinesPublic) (houtside : root.Outside a) :
    Reached false root a s := by
  induction a generalizing root with
  | nil =>
    obtain rfl : root = s := Option.some.inj hs
    exact .here hpublic
  | cons i a ih =>
    obtain ⟨body, hroot⟩ := houtside [] List.nil_prefix (List.cons_ne_nil i a).symm
    obtain rfl : root = .compound body := Option.some.inj hroot
    rw [Statement.at?] at hs
    obtain ⟨c, hc, hs⟩ := Option.bind_eq_some_iff.1 hs
    exact .inside hc (ih hs (houtside.tail hc))

/-- so is a public definition that stands directly in a class that is reached -/
theorem Reached.concat {name : String} {line : Nat} {body : List Statement}
    (h : Reached inClass root a (.classOf name line body)) (hs : body[i]? = some s) (hpublic : s.DefinesPublic) :
    Reached inClass root (a ++ [i]) s := by
  generalize hclass : Statement.classOf name line body = c at h
  induction h with
  | here h =>
    subst hclass
    exact .member (definesPublic_classOf.1 h) hs (.here hpublic)
  | member hname hc h ih => exact .member hname hc (ih hclass)
  | inside hc h ih => exact .inside hc (ih hclass)

/-- a place from which what is reached is visited: one outside, or one directly in a visited class -/
def Enters (root : Statement) (a : Address) : Bool → Prop
  | false => root.Outside a
  | true => ∃ b i name line body, a = b ++ [i] ∧ Visited root b ∧ root.at? b = some (.classOf name line body)

theorem Enters.visited (h : Enters root a inClass) (hs : root.at? a = some s) (hpublic : s.DefinesPublic) : Visited root a := by
  cases inClass with
  | false => exact .outside hs hpublic h
  | true =>
    obtain ⟨b, i, name, line, body, rfl, hclass, hat⟩ := h
    rw [at?_concat hat] at hs
    exact .member hclass hat hs hpublic

theorem Reached.visited (h : Reached inClass s b t) (hs : root.at? a = some s) (henters : Enters root a inClass) :
    Visited root (a ++ b) := by
  induction h generalizing a with
  | here h =>
    rw [List.append_nil]
    exact henters.visited hs h
  | @member inClass name line i body s t b hname hc h ih =>
    have hclass := henters.visited hs (definesPublic_classOf.2 hname)
    rw [List.append_cons]
    exact ih ((at?_concat hs i).trans hc) ⟨a, i, name, line, body, rfl, hclass, hs⟩
  | @inside i body s t b hc h ih =>
    rw [List.append_cons]
    exact ih ((at?_concat hs i).trans hc) (Statement.Outside.concat henters hs i)

/-- **What is visited is what can be reached** -/
theorem visited_iff : Visited root a ↔ ∃ s, Reached false root a s := by
  constructor
  · intro h
    induction h with
    | outside hs hpublic houtside => exact ⟨_, reached_of_outside hs hpublic houtside⟩
    | member hclass hat hs hpublic ih =>
      obtain ⟨c, hc⟩ := ih
      obtain rfl := Option.some.inj (hc.at?_eq.symm.trans hat)
      exact ⟨_, hc.concat hs hpublic⟩
  · rintro ⟨s, h⟩
    have hroot : Enters root [] false := outside_nil root
    exact h.visited rfl hroot

/-! ## What is reached from each kind of statement -/

section

variable {name : String} {line : Nat} {ps : Parameters} {body : List Statement} {x : List Char}

/-- what is reached in some statements, the first of which is at place `i` -/
def ReachedIn (inClass : Bool) (i : Nat) (ss : List Statement) (a : Address) (t : Statement) : Prop :=
  ∃ j b s, a = (i + j) :: b ∧ ss[j]? = some s ∧ Reached inClass s b t

theorem reached_classOf_iff : Reached inClass (.classOf name line body) a t ↔
    isPublic name = true ∧ ((a, t) = ([], .classOf name line body) ∨ ReachedIn true 0 body a t) := by
  constructor
  · intro h
    cases h with
    | here h => exact ⟨definesPublic_classOf.1 h, .inl rfl⟩
    | member hname hs h => exact ⟨hname, .inr ⟨_, _, _, by rw [Nat.zero_add], hs, h⟩⟩
  · rintro ⟨hname, heq | ⟨i, b, s, rfl, hs, h⟩⟩
    · obtain ⟨rfl, rfl⟩ := Prod.mk.inj heq
      exact .here (definesPublic_classOf.2 hname)
    · rw [Nat.zero_add]
      exact .member hname hs h

theorem reached_function_iff : Reached inClass (.function name line ps body) a t ↔
    isPublic name = true ∧ (a, t) = ([], .function name line ps body) := by
  constructor
  · intro h
    cases h with
    | here h => exact ⟨definesPublic_function.1 h, rfl⟩
  · rintro ⟨hname, heq⟩
    obtain ⟨rfl, rfl⟩ := Prod.mk.inj heq
    exact .here (definesPublic_function.2 hname)

theorem reached_compound_iff : Reached inClass (.compound body) a t ↔ inClass = false ∧ ReachedIn false 0 body a t := by
  constructor
  · intro h
    cases h with
    | here h => exact absurd h not_definesPublic_compound
    | inside hs h => exact ⟨rfl, _, _, _, by rw [Nat.zero_add], hs, h⟩
  · rintro ⟨rfl, i, b, s, rfl, hs, h⟩
    rw [Nat.zero_add]
    exact .inside hs h

theorem not_reached_text : ¬ Reached inClass (.text x) a t := by
  intro h
  cases h with
  | here h => simp [Statement.DefinesPublic, Statement.definedName?] at h

theorem not_reached_plain : ¬ Reached inClass .plain a t := by
  intro h
  cases h with
  | here h => simp [Statement.DefinesPublic, Statement.definedName?] at h

end

/-! ## Visits -/

theorem mem_visitsIn_cons {ss : List Statement} : (a, t) ∈ visitsIn inClass i (s :: ss) ↔
    (∃ b, a = i :: b ∧ (b, t) ∈ visits inClass s) ∨ (a, t) ∈ visitsIn inClass (i + 1) ss := by
  rw [visitsIn, List.mem_append, List.mem_map]
  refine or_congr_left ⟨?_, ?_⟩
  · rintro ⟨⟨b, t'⟩, hmem, heq⟩
    obtain ⟨rfl, rfl⟩ := Prod.mk.inj heq
    exact ⟨b, rfl, hmem⟩
  · rintro ⟨b, rfl, hmem⟩
    exact ⟨(b, t), hmem, rfl⟩

mutual

/-- **The visits lead to what can be reached** -/
theorem mem_visits_iff : ∀ (inClass : Bool) (s : Statement) {a : Address} {t : Statement},
    (a, t) ∈ visits inClass s ↔ Reached inClass s a t
  | inClass, .classOf name line body, a, t => by
    rw [visits, reached_classOf_iff, ← mem_visitsIn_iff true 0 body]
    split_ifs with hname <;> simp [hname]
  | inClass, .function name line ps body, a, t => by
    rw [visits, reached_function_iff]
    split_ifs with hname <;> simp [hname]
  | inClass, .compound body, a, t => by
    rw [visits, reached_compound_iff, ← mem_visitsIn_iff false 0 body]
    cases inClass <;> simp
  | inClass, .text x, a, t => iff_of_false List.not_mem_nil not_reached_text
  | inClass, .plain, a, t => iff_of_false List.not_mem_nil not_reached_plain

theorem mem_visitsIn_iff : ∀ (inClass : Bool) (i : Nat) (ss : List Statement) {a : Address} {t : Statement},
    (a, t) ∈ visitsIn inClass i ss ↔ ReachedIn inClass i ss a t
  | inClass, i, [], a, t => by simp [visitsIn, ReachedIn]
  | inClass, i, s :: ss, a, t => by
    rw [mem_visitsIn_cons, mem_visitsIn_iff inClass (i + 1) ss]
    constructor
    · rintro (⟨b, rfl, hmem⟩ | ⟨j, b, s', rfl, hs, h⟩)
      · exact ⟨0, b, s, rfl, rfl, (mem_visits_iff inClass s).1 hmem⟩
      · exact ⟨j + 1, b, s', by rw [Nat.add_assoc, Nat.add_comm 1], hs, h⟩
    · rintro ⟨j, b, s', rfl, hs, h⟩
      cases j with
      | zero =>
        obtain rfl : s = s' := Option.some.inj hs
        exact .inl ⟨b, rfl, (mem_visits_iff inClass s).2 h⟩
      | succ j => exact .inr ⟨j, b, s', by rw [Nat.add_assoc, Nat.add_comm 1], hs, h⟩

end

mutual

/-- no address is visited twice -/
theorem nodup_visits : ∀ (inClass : Bool) (s : Statement), ((visits inClass s).map Prod.fst).Nodup
  | inClass, .classOf name line body => by
    rw [visits]
    split_ifs
    · rw [List.map_cons, List.nodup_cons]
      refine ⟨fun h => ?_, nodup_visitsIn true 0 body⟩
      obtain ⟨⟨a, t⟩, hmem, hnil⟩ := List.mem_map.1 h
      obtain ⟨j, b, s, rfl, -⟩ := (mem_visitsIn_iff true 0 body).1 hmem
      exact absurd hnil (List.cons_ne_nil _ _)
    · exact List.nodup_nil
  | inClass, .function name line ps body => by
    rw [visits]
    split_ifs
    · exact List.nodup_singleton _
    · exact List.nodup_nil
  | inClass, .compound body => by
    rw [visits]
    split_ifs
    · exact List.nodup_nil
    · exact nodup_visitsIn false 0 body
  | inClass, .text x => List.nodup_nil
  | inClass, .plain => List.nodup_nil

theorem nodup_visitsIn : ∀ (inClass : Bool) (i : Nat) (ss : List Statement), ((visitsIn inClass i ss).map Prod.fst).Nodup
  | inClass, i, [] => List.nodup_nil
  | inClass, i, s :: ss => by
    rw [visitsIn, List.map_append, List.map_map]
    refine List.Nodup.append ?_ (nodup_visitsIn inClass (i + 1) ss) ?_
    · have hfirst := (nodup_visits inClass s).map (List.cons_injective (a := i))
      rwa [List.map_map] at hfirst
    · -- what is in the first statement is at place `i`, all else behind it
      intro a hfirst hrest
      obtain ⟨v, -, rfl⟩ := List.mem_map.1 hfirst
      obtain ⟨⟨b, t⟩, hmem, heq⟩ := List.mem_map.1 hrest
      obtain ⟨j, c, s', rfl, -⟩ := (mem_visitsIn_iff inClass (i + 1) ss).1 hmem
      have hplace : i + 1 + j = i := (List.cons.inj heq).1
      omega

end

end ChangeLint.Script
