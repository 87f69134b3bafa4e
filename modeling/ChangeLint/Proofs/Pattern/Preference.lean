/-
Which way wins.

`Leads widths flags k e s r` tells that an expression, tried at a state `s`, goes on from the state `r` whenever what is to
follow matches there. It is a claim about the preferred way and depends on what follows: a repetition with the least turns
first goes on from the first place where the rest matches, so the rest must be known to fail before it.

Results:
- `leads_seq`: the winning ways of two expressions, one after another;
- `leads_greedy`: a greedy repetition of a class takes the longest run of it;
- `leads_lazy`: a lazy repetition of a class takes a run of it when the rest matches nowhere before its end;
- `leads_capture`: a group captures what its body takes.
-/
import ChangeLint.Proofs.Pattern.Way

namespace ChangeLint.Pattern

/-- an expression goes on from a state whenever what is to follow matches there -/
def Leads (widths : List (Option Width)) (flags : Flags) (k : Next) (e : Expr) (s r : State) : Prop :=
  ∀ t, k r = some t → e.match? widths flags k s = some t

variable {widths : List (Option Width)} {flags : Flags} {k : Next} {a b body : Expr} {s r t : State}
variable {holds : Char → Bool} {c : Char} {u rest : List Char} {p : Pattern}

/-! ## Going on in a text -/

theorem State.past_nil (rest : List Char) (h : s.ahead = rest) : s.past [] rest = s := by
  subst h
  rfl

@[simp] theorem State.past_past (s : State) (u v rest mid : List Char) :
    (s.past u mid).past v rest = s.past (u ++ v) rest := by
  simp [past]

@[simp] theorem State.ahead_past (s : State) (u rest : List Char) : (s.past u rest).ahead = rest := rfl

theorem State.place_past (s : State) (u rest : List Char) : (s.past u rest).place = s.place + u.length := by
  rw [place, past, List.length_append, List.length_reverse, Nat.add_comm, place]

/-- what lies between a state and one further on -/
theorem State.since_past (s : State) (u rest : List Char) : (s.past u rest).since s.place = u := by
  rw [since, place_past, Nat.add_sub_cancel_left, past, List.take_left' List.length_reverse, List.reverse_reverse]

/-! ## Single characters -/

theorem one_of_ahead (hahead : s.ahead = c :: rest) (hc : holds c = true) : one holds k s = k (s.past [c] rest) := by
  rw [one, hahead]
  exact if_pos hc

theorem one_eq_none (h : ∀ c ∈ s.ahead.head?, holds c = false) : one holds k s = none := by
  unfold one
  split
  · rfl
  · next c rest hahead =>
    have hc := h c (by rw [hahead]; rfl)
    rw [hc, if_neg Bool.false_ne_true]

theorem leads_seq (hfirst : Leads widths flags (b.match? widths flags k) a s r) (hsecond : Leads widths flags k b r t) :
    Leads widths flags k (.seq a b) s t :=
  fun t' ht' => hfirst t' (hsecond t' ht')

theorem leads_anchor {anchor : Anchor} (h : anchor.holds flags s = true) : Leads widths flags k (.anchor anchor) s s :=
  fun _ ht => (if_pos h).trans ht

theorem leads_code {n : Nat} (hahead : s.ahead = c :: rest) (hc : (candidates flags c).contains n = true) :
    Leads widths flags k (.code n) s (s.past [c] rest) :=
  fun _ ht => (one_of_ahead hahead hc).trans ht

/-! ## Runs of a class -/

/-- turns that have to be made of a class -/
theorem turns_one (hahead : s.ahead = u ++ rest) (hu : ∀ c ∈ u, holds c = true) :
    turns (one holds) u.length k s = k (s.past u rest) := by
  induction u generalizing s with
  | nil =>
    rw [State.past_nil rest hahead]
    rfl
  | cons c u ih =>
    rw [List.length_cons, turns, one_of_ahead hahead (hu c List.mem_cons_self),
      ih rfl fun d hd => hu d (List.mem_cons_of_mem c hd), State.past_past]
    rfl

section

variable {turn : Next → Next} {fuel : Nat} {last : Option Nat}

theorem greedyTurns_succ (hlast : last ≠ some s.place) :
    greedyTurns turn k (fuel + 1) none last s = (turn (greedyTurns turn k fuel none (some s.place)) s).or (k s) := by
  rw [greedyTurns]
  refine (if_neg (by simpa using hlast)).trans ?_
  rw [Option.map_none]
  cases turn (greedyTurns turn k fuel none (some s.place)) s <;> rfl

theorem lazyTurns_succ (hlast : last ≠ some s.place) :
    lazyTurns turn k (fuel + 1) none last s = (k s).or (turn (lazyTurns turn k fuel none (some s.place)) s) := by
  rw [lazyTurns]
  beta_reduce
  cases k s with
  | some r => rfl
  | none => exact if_neg (by simpa using hlast)

/-- the next turn begins further on -/
theorem State.place_ne_past (s : State) (c : Char) (rest : List Char) : some s.place ≠ some (s.past [c] rest).place := by
  rw [State.place_past]
  simp

/-- the most turns first: the longest run wins -/
theorem greedyTurns_one (hahead : s.ahead = u ++ rest) (hu : ∀ c ∈ u, holds c = true)
    (hrest : ∀ c ∈ rest.head?, holds c = false) (hfuel : u.length < fuel) (hlast : last ≠ some s.place)
    (hk : k (s.past u rest) = some t) : greedyTurns (one holds) k fuel none last s = some t := by
  induction u generalizing s fuel last with
  | nil =>
    obtain ⟨fuel, rfl⟩ := Nat.exists_eq_add_one.2 (Nat.zero_lt_of_lt hfuel)
    rw [State.past_nil rest hahead] at hk
    rw [greedyTurns_succ hlast, one_eq_none (by rwa [hahead]), Option.none_or, hk]
  | cons c u ih =>
    obtain ⟨fuel, rfl⟩ := Nat.exists_eq_add_one.2 (Nat.zero_lt_of_lt hfuel)
    have hhead : s.ahead = c :: (u ++ rest) := hahead
    have hmore := ih (s := s.past [c] (u ++ rest)) rfl (fun d hd => hu d (List.mem_cons_of_mem c hd))
      (Nat.lt_of_succ_lt_succ hfuel) (State.place_ne_past s c _) (by rwa [State.past_past])
    rw [greedyTurns_succ hlast, one_of_ahead hhead (hu c List.mem_cons_self), hmore, Option.some_or]

/-- the least turns first: the first end after which the rest matches wins -/
theorem lazyTurns_one (hahead : s.ahead = u ++ rest) (hu : ∀ c ∈ u, holds c = true)
    (hearly : ∀ v w, w ≠ [] → u = v ++ w → k (s.past v (w ++ rest)) = none) (hfuel : u.length < fuel)
    (hlast : last ≠ some s.place) (hk : k (s.past u rest) = some t) :
    lazyTurns (one holds) k fuel none last s = some t := by
  induction u generalizing s fuel last with
  | nil =>
    obtain ⟨fuel, rfl⟩ := Nat.exists_eq_add_one.2 (Nat.zero_lt_of_lt hfuel)
    rw [State.past_nil rest hahead] at hk
    rw [lazyTurns_succ hlast, hk, Option.some_or]
  | cons c u ih =>
    obtain ⟨fuel, rfl⟩ := Nat.exists_eq_add_one.2 (Nat.zero_lt_of_lt hfuel)
    have hnone := hearly [] (c :: u) (List.cons_ne_nil c u) rfl
    rw [State.past_nil (c :: u ++ rest) hahead] at hnone
    have hlater : ∀ v w, w ≠ [] → u = v ++ w → k ((s.past [c] (u ++ rest)).past v (w ++ rest)) = none := by
      intro v w hw huvw
      rw [State.past_past]
      exact hearly (c :: v) w hw (by rw [huvw]; rfl)
    rw [lazyTurns_succ hlast, hnone, Option.none_or, one_of_ahead hahead (hu c List.mem_cons_self)]
    exact ih rfl (fun d hd => hu d (List.mem_cons_of_mem c hd)) hlater (Nat.lt_of_succ_lt_succ hfuel)
      (State.place_ne_past s c _) (by rwa [State.past_past])

end

section

variable {least : Nat} (hbody : ∀ k, body.match? widths flags k = one holds k) (hahead : s.ahead = u ++ rest)
  (hu : ∀ c ∈ u, holds c = true) (hleast : least ≤ u.length)

include hahead hu hleast

/-- the turns that have to be made leave the rest of the run to the others -/
theorem turns_one_of_le {k' : Next} (hk' : k' (s.past (u.take least) (u.drop least ++ rest)) = some t) :
    turns (one holds) least k' s = some t := by
  have hcut : s.ahead = u.take least ++ (u.drop least ++ rest) := by
    rw [hahead, ← List.append_assoc, List.take_append_drop]
  have hturns := turns_one (k := k') hcut fun c hc => hu c (List.mem_of_mem_take hc)
  rw [List.length_take_of_le hleast] at hturns
  rw [hturns, hk']

omit hu hleast in
/-- a turn for each character of the run is not too many -/
theorem length_drop_lt : (u.drop least).length < s.ahead.length + 2 := by
  rw [List.length_drop, hahead, List.length_append]
  omega

include hbody

/-- **A greedy repetition of a class** takes the longest run of it -/
theorem leads_greedy (hrest : ∀ c ∈ rest.head?, holds c = false) :
    Leads widths flags k (.again .greedy least none body) s (s.past u rest) := by
  intro t ht
  change turns (body.match? widths flags) least (greedyTurns (body.match? widths flags) k _ none none) s = some t
  rw [funext hbody]
  refine turns_one_of_le hahead hu hleast ?_
  exact greedyTurns_one rfl (fun c hc => hu c (List.mem_of_mem_drop hc)) hrest (length_drop_lt hahead) (by simp)
    (by rwa [State.past_past, List.take_append_drop])

/-- **A lazy repetition of a class** takes a run of it when the rest matches at its end, and nowhere before -/
theorem leads_lazy (hearly : ∀ v w, w ≠ [] → u = v ++ w → k (s.past v (w ++ rest)) = none) :
    Leads widths flags k (.again .lazy least none body) s (s.past u rest) := by
  intro t ht
  change turns (body.match? widths flags) least (lazyTurns (body.match? widths flags) k _ none none) s = some t
  rw [funext hbody]
  refine turns_one_of_le hahead hu hleast ?_
  refine lazyTurns_one rfl (fun c hc => hu c (List.mem_of_mem_drop hc)) ?_ (length_drop_lt hahead) (by simp)
    (by rwa [State.past_past, List.take_append_drop])
  intro v w hw hvw
  rw [State.past_past]
  exact hearly (u.take least ++ v) w hw (by rw [List.append_assoc, ← hvw, List.take_append_drop])

end

/-- **A group captures** what its body takes -/
theorem leads_capture {g : Nat}
    (hbody : Leads widths flags (fun r => k (r.capture g (r.since s.place))) body s (s.past u rest)) :
    Leads widths flags k (.group (some g) [] [] body) s ((s.past u rest).capture g u) := by
  intro t ht
  have hflags : flags.combine [] [] = flags := by simp [Flags.combine]
  change body.match? widths (flags.combine [] []) (fun r => k (r.capture g (r.since s.place))) s = some t
  rw [hflags]
  refine hbody t ?_
  beta_reduce
  rwa [State.since_past]

/-- a match at the start of a text is the leftmost one -/
theorem search?_of_leads {text : List Char} (h : Leads p.widths p.flags some p.body ⟨[], text, []⟩ r) :
    p.search? text = some r := by
  rw [search?]
  unfold searchFrom
  rw [h r rfl]

end ChangeLint.Pattern
