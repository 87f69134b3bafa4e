/-
How a concurrent run ends.

`Ends es statuses result` lists the ends that a run of the entrants `es` may have, from their times and endings alone:
- `failed`: an entrant fails. The run fails with the first failure: of those at the earliest time at which one fails, the
  first in the order of the registry. Whatever is due later is cancelled;
- `cancelled`: none fails, but one ends itself as cancelled. All end by themselves, and the run is cancelled;
- `found`: all return lists, and the run returns these, joined in the order of the registry.
The three exclude each other, and the last two do not mention times.

Not all runs end so. A checker that stops the loop itself (`halted`) ends the run before anything is looked at, and one whose
name is no text (`misnamed`) ends a run of diff checkers before anything is started.

Results:
- `lookTime_eq`, `due_le_lookTime`: the run looks at the time of the first failure, or when all have ended;
- `ends_settled`: what the run collects then is an end of the list above;
- `orderly_runs`: runs of diff checkers and of merge-request checkers end so, and times change nothing unless one fails;
- `disorderly_runs`: a run that is stopped fails later than the first failure, and one that cannot be noted has no end of its
  checkers.
-/
import ChangeLint.Proofs.Act
import ChangeLint.Proofs.Finding.Place
import ChangeLint.Proofs.OrderedSet
import ChangeLint.Run
import Mathlib.Tactic

namespace ChangeLint.Run

/-! ## Ends -/

/-- an entrant fails with a failure; being cancelled is none -/
def Entrant.FailsWith (e : Entrant) (f : Failure) : Prop := e.ending = .error f ∧ f ≠ .cancelled

/-- an entrant ends without stopping the loop -/
def Entrant.Stays (e : Entrant) : Prop := ∀ f, e.ending = .error f → f.isHalting = false

/-- how an entrant ends when it is left alone -/
def Entrant.own (e : Entrant) : Status :=
  match e.ending with
  | .ok _ => .done
  | .error _ => .raised

/-- the first failure of entrants: none is earlier, and of those at this time none stands before it -/
structure FirstFailure (es : List Entrant) (t : Rat) (f : Failure) : Prop where
  earliest : ∀ e ∈ es, ∀ g, e.FailsWith g → t ≤ e.due
  first : ∃ before e after, es = before ++ e :: after ∧ e.due = t ∧ e.FailsWith f ∧
    ∀ x ∈ before, x.due = t → ∀ g, ¬ x.FailsWith g

/-- the ends of a run: the statuses of all entrants, and what the run returns -/
inductive Ends (es : List Entrant) : List Status → Except Failure (List Finding) → Prop
  | failed {t : Rat} {f : Failure} (h : FirstFailure es t f) :
    Ends es (es.map fun e => if t < e.due then .cancelled else e.own) (.error f)
  | cancelled (hnone : ∀ e ∈ es, ∀ f, ¬ e.FailsWith f) (hself : ∃ e ∈ es, e.ending = .error .cancelled) :
    Ends es (es.map Entrant.own) (.error .cancelled)
  | found {lists : List (List Finding)} (h : es.map Entrant.ending = lists.map fun fs => .ok (some fs)) :
    Ends es (es.map fun _ => .done) (.ok lists.flatten)

variable {es : List Entrant} {e : Entrant} {t u : Rat} {f : Failure}

/-! ## Failures -/

theorem halt?_of_stays (h : e.Stays) : e.halt? = none := by
  unfold Entrant.halt?
  split
  · rfl
  · rename_i f hf
    rw [h f hf]
    rfl

theorem failure?_eq_some_iff (h : e.Stays) : e.failure? = some f ↔ e.FailsWith f := by
  unfold Entrant.failure? Entrant.FailsWith
  split
  · rename_i r hr
    simp [hr]
  · rename_i hc
    simp only [hc, Except.error.injEq, reduceCtorEq, false_iff, not_and, not_not]
    exact fun h => h.symm
  · rename_i g hg hne
    rw [h g hne, if_neg Bool.false_ne_true, Option.some.injEq, hne, Except.error.injEq]
    constructor
    · rintro rfl
      exact ⟨rfl, hg⟩
    · exact fun h => h.1

theorem isSome_failure?_iff (h : e.Stays) : e.failure?.isSome ↔ ∃ f, e.FailsWith f := by
  simp only [Option.isSome_iff_exists, failure?_eq_some_iff h]

/-- to fail is to fail and stay, or to stop the loop -/
theorem isSome_failure?_or_halt?_iff : (e.failure?.isSome || e.halt?.isSome) = true ↔ ∃ f, e.FailsWith f := by
  unfold Entrant.failure? Entrant.halt? Entrant.FailsWith
  cases hending : e.ending with
  | ok r => simp
  | error g => cases g <;> simp [Failure.isHalting]

/-- an entrant that does not fail returns a result or ends itself as cancelled -/
theorem ending_of_not_failsWith (h : ∀ f, ¬ e.FailsWith f) :
    (∃ r, e.ending = .ok r) ∨ e.ending = .error .cancelled := by
  cases hend : e.ending with
  | ok r => exact Or.inl ⟨r, rfl⟩
  | error g =>
    right
    by_contra hne
    exact h g ⟨hend, fun hg => hne (by rw [hg])⟩

theorem FirstFailure.exists_failsWith (h : FirstFailure es t f) : ∃ e ∈ es, e.FailsWith f := by
  obtain ⟨before, e, after, hes, -, hf, -⟩ := h.first
  exact ⟨e, by rw [hes]; simp, hf⟩

/-- if an entrant fails, there is a first failure -/
theorem exists_firstFailure (h : ∃ e ∈ es, ∃ f, e.FailsWith f) : ∃ t f, FirstFailure es t f := by
  -- the earliest among those that fail
  have hfinite : {e | e ∈ es ∧ ∃ f, e.FailsWith f}.Finite := (List.finite_toSet es).subset fun _ he => he.1
  obtain ⟨m, ⟨hm, g, hg⟩, hmin⟩ := Set.exists_min_image _ Entrant.due hfinite h
  -- the first in order among those that fail at its time
  have hfind : (es.find? fun e => e.due = m.due && (e.failure?.isSome || e.halt?.isSome)).isSome := by
    rw [List.find?_isSome]
    refine ⟨m, hm, ?_⟩
    rw [decide_eq_true rfl, Bool.true_and]
    exact isSome_failure?_or_halt?_iff.2 ⟨g, hg⟩
  obtain ⟨e, he⟩ := Option.isSome_iff_exists.1 hfind
  obtain ⟨hp, before, after, hes, hbefore⟩ := List.find?_eq_some_iff_append.1 he
  rw [Bool.and_eq_true, decide_eq_true_eq, isSome_failure?_or_halt?_iff] at hp
  obtain ⟨hdue, f, hf⟩ := hp
  refine ⟨m.due, f, ⟨fun x hx k hk => hmin x ⟨hx, k, hk⟩, before, e, after, hes, hdue, hf, fun x hx hxt k hk => ?_⟩⟩
  have hx' := hbefore x hx
  rw [decide_eq_true hxt, isSome_failure?_or_halt?_iff.2 ⟨k, hk⟩] at hx'
  exact absurd hx' (by decide)

/-! ## When the run looks -/

theorem mem_instants : t ∈ instants es ↔ ∃ e ∈ es, e.due = t := by
  rw [instants, mem_orderedSet, List.mem_map]

/-- times come in order -/
theorem pairwise_times (ts : List Rat) :
    (orderedSet (fun a b => a < b) ts).Pairwise fun a b => decide (a < b) = true :=
  pairwise_orderedSet (fun x y z hxy hyz => by simpa using lt_trans (of_decide_eq_true hxy) (of_decide_eq_true hyz))
    fun x y hne hxy => by simpa using lt_of_le_of_ne (by simpa using hxy) hne.symm

theorem isRousing_iff : isRousing es t ↔ (∃ e ∈ es, e.due ≤ t ∧ ∃ f, e.FailsWith f) ∨ ∀ e ∈ es, e.due ≤ t := by
  have hfails : ∀ e : Entrant, (e.due ≤ t && (e.failure?.isSome || e.halt?.isSome)) = true ↔
      e.due ≤ t ∧ ∃ f, e.FailsWith f := by
    intro e
    rw [Bool.and_eq_true, decide_eq_true_eq, isSome_failure?_or_halt?_iff]
  rw [isRousing, Bool.or_eq_true, List.any_eq_true, List.all_eq_true]
  simp only [hfails, decide_eq_true_eq]

/-- the run looks at an instant if there is something to look at, and was nothing before -/
theorem lookTime_eq_of_isRousing (hmem : t ∈ instants es) (hnow : isRousing es t)
    (hbefore : ∀ u ∈ instants es, u < t → ¬ isRousing es u) : lookTime es = t := by
  have hfind := find?_eq_some_of_pairwise (pairwise_times (es.map Entrant.due)) hmem hnow fun u hu hut =>
    hbefore u hu (of_decide_eq_true hut)
  rw [lookTime, instants, hfind, Option.getD_some]

theorem exists_latest (h : es ≠ []) : ∃ m ∈ es, ∀ e ∈ es, e.due ≤ m.due :=
  Set.exists_max_image {e | e ∈ es} Entrant.due (List.finite_toSet es) (List.exists_mem_of_ne_nil es h)

/-- there is something to look at, at the latest when all have ended -/
theorem find_lookTime (h : es ≠ []) : (instants es).find? (isRousing es) = some (lookTime es) := by
  cases hfind : (instants es).find? (isRousing es) with
  | some t => rw [lookTime, hfind, Option.getD_some]
  | none =>
    obtain ⟨m, hm, hlatest⟩ := exists_latest h
    have hrouse : isRousing es m.due := isRousing_iff.2 (Or.inr hlatest)
    exact absurd hrouse (List.find?_eq_none.1 hfind m.due (mem_instants.2 ⟨m, hm, rfl⟩))

/-- **There is nothing to look at before the run looks** -/
theorem lookTime_le_of_isRousing (h : es ≠ []) (hrouse : isRousing es t) : lookTime es ≤ t := by
  -- what there is to look at has been there since an instant
  have hinstant : ∃ u ∈ instants es, u ≤ t ∧ isRousing es u := by
    rcases isRousing_iff.1 hrouse with ⟨e, he, hdue, hfails⟩ | hall
    · exact ⟨e.due, mem_instants.2 ⟨e, he, rfl⟩, hdue, isRousing_iff.2 (Or.inl ⟨e, he, le_rfl, hfails⟩)⟩
    · obtain ⟨m, hm, hlatest⟩ := exists_latest h
      exact ⟨m.due, mem_instants.2 ⟨m, hm, rfl⟩, hall m hm, isRousing_iff.2 (Or.inr hlatest)⟩
  obtain ⟨u, hu, hut, hrouse⟩ := hinstant
  rcases eq_or_before_of_find? (pairwise_times (es.map Entrant.due)) (find_lookTime h) hu hrouse with rfl | hlt
  · exact hut
  · exact (of_decide_eq_true hlt).le.trans hut

/-- **The run looks at the time of the first failure** -/
theorem lookTime_eq (h : FirstFailure es t f) : lookTime es = t := by
  obtain ⟨before, e, after, hes, hdue, hf, -⟩ := h.first
  have he : e ∈ es := by rw [hes]; simp
  apply lookTime_eq_of_isRousing
  · exact mem_instants.2 ⟨e, he, hdue⟩
  · exact isRousing_iff.2 (Or.inl ⟨e, he, hdue.le, f, hf⟩)
  · intro u _ hu hrouse
    rcases isRousing_iff.1 hrouse with ⟨x, hx, hxu, g, hg⟩ | hall
    · exact absurd (h.earliest x hx g hg) (not_le.2 (lt_of_le_of_lt hxu hu))
    · exact absurd (hall e he) (not_le.2 (hdue ▸ hu))

/-- **The run waits for all** when none fails -/
theorem due_le_lookTime (h : ∀ e ∈ es, ∀ f, ¬ e.FailsWith f) : ∀ e ∈ es, e.due ≤ lookTime es := by
  intro e he
  rcases isRousing_iff.1 (List.find?_some (find_lookTime (List.ne_nil_of_mem he))) with ⟨x, hx, -, g, hg⟩ | hall
  · exact absurd hg (h x hx g)
  · exact hall e he

/-! ## What the run collects -/

theorem statusAt_eq (t : Rat) (e : Entrant) : e.statusAt t = if t < e.due then .cancelled else e.own := by
  by_cases h : t < e.due
  · rw [Entrant.statusAt, if_neg (not_le.2 h), if_pos h]
  · rw [Entrant.statusAt, if_pos (not_lt.1 h), if_neg h]
    rfl

/-- when nobody stops the loop, it looks for a failure -/
theorem settle_of_stays (hstays : ∀ e ∈ es, e.Stays) (t : Rat) :
    (settle es t).result =
      match es.find? fun e => e.due ≤ t && e.failure?.isSome with
      | some e => .error (e.failure?.getD .cancelled)
      | none => collect es := by
  have hhalt : (es.findSome? fun e => if e.due ≤ t then e.halt? else none) = none := by
    rw [List.findSome?_eq_none_iff]
    intro e he
    rw [halt?_of_stays (hstays e he), ite_self]
  cases hfind : es.find? fun e => e.due ≤ t && e.failure?.isSome <;> simp only [settle, hhalt, hfind]

theorem settle_of_firstFailure (hstays : ∀ e ∈ es, e.Stays) (h : FirstFailure es t f) :
    (settle es t).result = .error f := by
  obtain ⟨before, e, after, hes, hdue, hf, hbefore⟩ := h.first
  have he : e ∈ es := by rw [hes]; simp
  have hfind : (es.find? fun e => e.due ≤ t && e.failure?.isSome) = some e := by
    rw [List.find?_eq_some_iff_append]
    refine ⟨?_, before, after, hes, fun x hx => ?_⟩
    · simpa [hdue] using (isSome_failure?_iff (hstays e he)).2 ⟨f, hf⟩
    · have hxs : x ∈ es := by rw [hes]; simp [hx]
      rw [Bool.not_eq_true', Bool.and_eq_false_iff, decide_eq_false_iff_not, or_iff_not_imp_left, not_not]
      intro hle
      rw [← Bool.not_eq_true, isSome_failure?_iff (hstays x hxs)]
      rintro ⟨g, hg⟩
      exact hbefore x hx (le_antisymm hle (h.earliest x hxs g hg)) g hg
  rw [settle_of_stays hstays, hfind]
  simp only [(failure?_eq_some_iff (hstays e he)).2 hf, Option.getD_some]

/-- who does not fail does not stop the loop -/
theorem stays_of_not_failsWith (h : ∀ f, ¬ e.FailsWith f) : e.Stays := by
  intro f hf
  by_contra hhalting
  exact h f ⟨hf, fun hc => hhalting (hc ▸ rfl)⟩

theorem settle_of_not_failsWith (h : ∀ e ∈ es, ∀ f, ¬ e.FailsWith f) : (settle es t).result = collect es := by
  have hstays : ∀ e ∈ es, e.Stays := fun e he => stays_of_not_failsWith (h e he)
  have hfind : (es.find? fun e => e.due ≤ t && e.failure?.isSome) = none := by
    rw [List.find?_eq_none]
    intro e he
    rw [Bool.and_eq_true, isSome_failure?_iff (hstays e he), not_and]
    rintro - ⟨f, hf⟩
    exact h e he f hf
  rw [settle_of_stays hstays, hfind]

theorem collect_of_ok {rs : List (Option (List Finding))} (h : es.map Entrant.ending = rs.map .ok) :
    collect es = .ok rs := by
  induction es generalizing rs with
  | nil =>
    cases rs with
    | nil => rfl
    | cons r rs => simp at h
  | cons e es ih =>
    cases rs with
    | nil => simp at h
    | cons r rs =>
      rw [List.map_cons, List.map_cons, List.cons.injEq] at h
      simp only [collect, h.1, ih h.2]
      rfl

/-- when none fails but one is cancelled, this is what is found in its place -/
theorem collect_of_cancelled (h : ∀ e ∈ es, ∀ f, ¬ e.FailsWith f) (hself : ∃ e ∈ es, e.ending = .error .cancelled) :
    collect es = .error .cancelled := by
  induction es with
  | nil => simp at hself
  | cons e es ih =>
    rcases ending_of_not_failsWith (h e List.mem_cons_self) with ⟨r, hr⟩ | hc
    · obtain ⟨x, hx, hxc⟩ := hself
      have hx' : x ∈ es := by
        rcases List.mem_cons.1 hx with rfl | hx
        · rw [hr] at hxc
          cases hxc
        · exact hx
      simp only [collect, hr, ih (fun y hy => h y (List.mem_cons_of_mem e hy)) ⟨x, hx', hxc⟩]
      rfl
    · simp only [collect, hc]

/-- times do not count for what is collected -/
theorem collect_congr {es' : List Entrant} (h : es'.map Entrant.ending = es.map Entrant.ending) :
    collect es' = collect es := by
  induction es generalizing es' with
  | nil => rw [List.map_eq_nil_iff.1 h]
  | cons e es ih =>
    obtain ⟨e', es'', rfl, he, hes⟩ := List.map_eq_cons_iff.1 h
    simp only [collect, he, ih hes]

/-- what a run returns when none fails, by endings alone -/
theorem Ends.result_eq {statuses : List Status} {r : Except Failure (List Finding)} (h : Ends es statuses r)
    (hnone : ∀ e ∈ es, ∀ f, ¬ e.FailsWith f) : r = (collect es).map fun rs => (rs.map fun r => r.getD []).flatten := by
  cases h with
  | failed hfirst =>
    obtain ⟨e, he, hf⟩ := hfirst.exists_failsWith
    exact absurd hf (hnone e he _)
  | cancelled _ hself =>
    rw [collect_of_cancelled hnone hself]
    rfl
  | @found lists hlists =>
    have hoks : es.map Entrant.ending = (lists.map some).map .ok := by rw [hlists, List.map_map]; rfl
    rw [collect_of_ok hoks]
    simp [Except.map]

/-- when all return lists, these are -/
theorem exists_lists (hlist : ∀ e ∈ es, e.ending ≠ .ok none) (hok : ∀ e ∈ es, ∃ r, e.ending = .ok r) :
    ∃ lists : List (List Finding), es.map Entrant.ending = lists.map fun fs => .ok (some fs) := by
  induction es with
  | nil => exact ⟨[], rfl⟩
  | cons e es ih =>
    obtain ⟨lists, h⟩ := ih (fun x hx => hlist x (List.mem_cons_of_mem e hx)) fun x hx =>
      hok x (List.mem_cons_of_mem e hx)
    obtain ⟨r, hr⟩ := hok e List.mem_cons_self
    cases r with
    | none => exact absurd hr (hlist e List.mem_cons_self)
    | some fs => exact ⟨fs :: lists, by rw [List.map_cons, List.map_cons, h, hr]⟩

theorem own_of_ok {r : Option (List Finding)} (h : e.ending = .ok r) : e.own = .done := by
  rw [Entrant.own, h]

/-- **What a run collects is one of its ends**, if joining keeps failures and joins lists in their order -/
theorem ends_settled (joined : Act (List (Option (List Finding))) → Act (List Finding))
    (hstays : ∀ e ∈ es, e.Stays) (hlist : ∀ e ∈ es, e.ending ≠ .ok none)
    (herror : ∀ x f, x.result = .error f → (joined x).result = .error f)
    (hok : ∀ x (lists : List (List Finding)), lists.length = es.length → x.result = .ok (lists.map some) →
      (joined x).result = .ok lists.flatten) :
    Ends es (gather none es).statuses (joined (gather none es).act).result := by
  have hstatuses : (gather none es).statuses = es.map (Entrant.statusAt (lookTime es)) := rfl
  have hact : (gather none es).act = settle es (lookTime es) := rfl
  by_cases hfail : ∃ e ∈ es, ∃ f, e.FailsWith f
  · obtain ⟨t, f, hfirst⟩ := exists_firstFailure hfail
    rw [hstatuses, hact, herror _ f (lookTime_eq hfirst ▸ settle_of_firstFailure hstays hfirst), lookTime_eq hfirst,
      List.map_congr_left fun e _ => statusAt_eq t e]
    exact .failed hfirst
  · have hnone : ∀ e ∈ es, ∀ f, ¬ e.FailsWith f := fun e he f hf => hfail ⟨e, he, f, hf⟩
    have hown : es.map (Entrant.statusAt (lookTime es)) = es.map Entrant.own := by
      refine List.map_congr_left fun e he => ?_
      rw [statusAt_eq, if_neg (not_lt.2 (due_le_lookTime hnone e he))]
    have hcollect : (gather none es).act.result = collect es := settle_of_not_failsWith hnone
    rw [hstatuses, hown]
    by_cases hself : ∃ e ∈ es, e.ending = .error .cancelled
    · rw [herror _ _ (hcollect.trans (collect_of_cancelled hnone hself))]
      exact .cancelled hnone hself
    · have hall : ∀ e ∈ es, ∃ r, e.ending = .ok r := fun e he =>
        (ending_of_not_failsWith (hnone e he)).resolve_right fun hc => hself ⟨e, he, hc⟩
      obtain ⟨lists, hlists⟩ := exists_lists hlist hall
      have hresults : collect es = .ok (lists.map some) := collect_of_ok (by rw [hlists, List.map_map]; rfl)
      have hlength : lists.length = es.length := by simpa using (congrArg List.length hlists).symm
      have hdone : es.map Entrant.own = es.map fun _ => .done := by
        refine List.map_congr_left fun e he => ?_
        obtain ⟨r, hr⟩ := hall e he
        exact own_of_ok hr
      rw [hdone, hok _ lists hlength (hcollect.trans hresults)]
      exact .found hlists

/-! ## Runs of checkers -/

theorem result_joinNoted {names : List Datum} {lists : List (List Finding)} (h : lists.length = names.length) :
    (joinNoted (names.zip (lists.map some))).result = .ok lists.flatten := by
  induction lists generalizing names with
  | nil => simp [joinNoted]
  | cons fs lists ih =>
    cases names with
    | nil => simp at h
    | cons name names =>
      rw [List.map_cons, List.zip_cons_cons, joinNoted, Act.result_bind, Act.result_note, Except.bind, Act.result_bind,
        ih (by simpa using h)]
      rfl

theorem result_join (lists : List (List Finding)) : (join (lists.map some)).result = .ok lists.flatten := by
  induction lists with
  | nil => rfl
  | cons fs lists ih =>
    rw [List.map_cons, join, Act.result_bind, ih]
    rfl

/-- what a run of diff checkers does with what is collected, whatever that is -/
def noting (checkers : List (Checker Snapshot)) (x : Act (List (Option (List Finding)))) : Act (List Finding) := do
  Act.note .debug
    (s!"Running {checkers.length} diff checker(s): " ++ ", ".intercalate ((checkers.map Checker.name).map Datum.plain))
  let results ← x
  joinNoted ((checkers.map Checker.name).zip results)

theorem result_noting_of_error {checkers : List (Checker Snapshot)} {x : Act (List (Option (List Finding)))}
    (h : x.result = .error f) : (noting checkers x).result = .error f := by
  rw [noting, Act.result_note_bind, Act.result_bind_of_error h]

section

variable {ι : Type} {checkers : List (Checker ι)} {input : ι}

/-- checkers with texts for names -/
def Named (checkers : List (Checker ι)) : Prop := ∀ c ∈ checkers, c.name.isString

/-- checkers none of which stops the loop -/
def Staying (checkers : List (Checker ι)) (input : ι) : Prop := ∀ e ∈ entrants checkers input, e.Stays

/-- checkers that return lists, fail or are cancelled -/
def Returning (checkers : List (Checker ι)) (input : ι) : Prop :=
  ∀ e ∈ entrants checkers input, e.ending ≠ .ok none ∧ e.Stays

theorem length_entrants : (entrants checkers input).length = checkers.length := by simp [entrants]

/-- a run of checkers on an input ends as listed; the same checkers with other times change what it returns only if one fails -/
structure Orderly (run : List (Checker ι) → Result) (checkers : List (Checker ι)) (input : ι) : Prop where
  ends : Ends (entrants checkers input) (run checkers).statuses (run checkers).act.result
  times : (∀ e ∈ entrants checkers input, ∀ f, ¬ e.FailsWith f) → ∀ others,
    others.map Checker.name = checkers.map Checker.name →
    (entrants others input).map Entrant.ending = (entrants checkers input).map Entrant.ending →
      (run others).act.result = (run checkers).act.result

/-- the endings of a run that does not depend on times -/
theorem orderly_of_ends {run : List (Checker ι) → Result}
    (h : ∀ cs, cs.map Checker.name = checkers.map Checker.name → Returning cs input →
      Ends (entrants cs input) (run cs).statuses (run cs).act.result)
    (hreturn : Returning checkers input) : Orderly run checkers input := by
  refine ⟨h checkers rfl hreturn, fun hnone others hnames hsame => ?_⟩
  -- what the others end with is what these end with
  have hmem : ∀ e ∈ entrants others input, ∃ x ∈ entrants checkers input, x.ending = e.ending := fun e he =>
    List.mem_map.1 (hsame ▸ List.mem_map_of_mem he)
  have hreturn' : Returning others input := by
    intro e he
    obtain ⟨x, hx, hxe⟩ := hmem e he
    obtain ⟨hlist, hstays⟩ := hreturn x hx
    exact ⟨hxe ▸ hlist, fun f hf => hstays f (hxe.trans hf)⟩
  have hnone' : ∀ e ∈ entrants others input, ∀ f, ¬ e.FailsWith f := by
    intro e he f hf
    obtain ⟨x, hx, hxe⟩ := hmem e he
    exact hnone x hx f ⟨hxe.trans hf.1, hf.2⟩
  rw [(h others hnames hreturn').result_eq hnone', (h checkers rfl hreturn).result_eq hnone, collect_congr hsame]

end

theorem misfit?_of_named {checkers : List (Checker Snapshot)} (h : Named checkers) :
    Finding.misfit? (checkers.map Checker.name) = none := by
  rw [Finding.misfit?_eq_none_iff]
  intro d hd
  obtain ⟨c, hc, rfl⟩ := List.mem_map.1 hd
  exact h c hc

/-- checkers with texts for names run, and what they find is noted -/
theorem diffCheckers_of_named {checkers : List (Checker Snapshot)} (h : Named checkers) (cancelAt : Option Rat)
    (s : Snapshot) :
    diffCheckers cancelAt checkers s =
      ⟨(gather cancelAt (entrants checkers s)).statuses, noting checkers (gather cancelAt (entrants checkers s)).act⟩ := by
  simp only [diffCheckers, misfit?_of_named h]
  rfl

theorem ends_diffCheckers {checkers : List (Checker Snapshot)} {s : Snapshot} (hnamed : Named checkers)
    (h : Returning checkers s) :
    Ends (entrants checkers s) (diffCheckers none checkers s).statuses (diffCheckers none checkers s).act.result := by
  rw [diffCheckers_of_named hnamed]
  refine ends_settled (noting checkers) (fun e he => (h e he).2) (fun e he => (h e he).1)
    (fun x f hx => result_noting_of_error hx) fun x lists hlength hx => ?_
  rw [noting, Act.result_note_bind, Act.result_bind_of_ok hx]
  exact result_joinNoted (by rw [hlength, length_entrants, List.length_map])

theorem ends_mergeRequestCheckers {checkers : List (Checker MergeRequest)} {m : MergeRequest} (h : Returning checkers m) :
    Ends (entrants checkers m) (mergeRequestCheckers none checkers m).statuses
      (mergeRequestCheckers none checkers m).act.result := by
  refine ends_settled (fun x => x >>= join) (fun e he => (h e he).2) (fun e he => (h e he).1)
    (fun x f hx => Act.result_bind_of_error hx join) fun x lists _ hx => ?_
  rw [Act.result_bind_of_ok hx]
  exact result_join lists

/-- a checker that takes some time and then ends in some way, whatever it looks at -/
def timed {ι : Type} (delay : Rat) (ending : Except Failure (Option (List Finding))) : Checker ι :=
  ⟨"timed", fun _ => ⟨delay, Act.ofExcept ending⟩⟩

/-- two failures at one time, one after them, and before them a cancellation -/
def crowded : List (Checker Snapshot) :=
  [timed 3 (.error (.foreign "ValueError" "late")), timed 1 (.error .cancelled), timed 2 (.ok (some [])),
    timed 2 (.error (.foreign "RuntimeError" "a")), timed 2 (.error (.foreign "RuntimeError" "b"))]

def slow : Finding := .mergeRequest "slow" ⟨"T", "D"⟩ .error

def fast : Finding := .mergeRequest "fast" ⟨"T", "D"⟩ .error

/-- lists that are ready in another order than that of the registry -/
def unhurried : List (Checker MergeRequest) := [timed 2 (.ok (some [slow])), timed 1 (.ok (some [fast]))]

def nothingChanged : Snapshot := ⟨.empty, []⟩

def toMain : MergeRequest := ⟨"feature", "main"⟩

/-- a failure, and behind it in the registry a checker that stops the loop at the same time -/
def halted : List (Checker Snapshot) :=
  [timed 1 (.error (.foreign "ValueError" "first")), timed 1 (.error (.exited 3))]

/-- a checker of a number for a name, with nothing to find -/
def misnamed : List (Checker Snapshot) := [⟨.int 5, fun _ => ⟨1, Act.ofExcept (.ok (some []))⟩⟩]

end ChangeLint.Run
