/-
What is written as JSON is read back.

`Spells cs d` says that a text stands for a datum wherever it stands: it begins with something to be seen, and the reader
finds the datum at its front and goes no further. Texts of items make the text of a list, and texts of members the text of a
table, with any blanks between them (`spells_list`, `spells_table`). So all that is written of a datum can be read off its
parts: `spells_compact` for one line and `spells_indentedAt` for several, and `read_compact` and `read_indented` for a whole
text.

Reals, moments and broken texts are left out: the first are rounded when they are read, the second are written as texts, and
the third have no bytes. What is left is written in one way only (`text_compact`, `text_indented`).
-/
import ChangeLint.Proofs.Datum
import ChangeLint.Proofs.Json.Scalar

namespace ChangeLint.Json

/-! ## Texts of data -/

/-- true of texts of blanks -/
def Gap (gap : List Char) : Prop := ∀ c ∈ gap, isSpace c = true

/-- true of characters that the text of a datum may begin with: no blank, no mark of byte order, nothing that closes a list -/
def Opens (c : Char) : Prop := isSpace c = false ∧ c ∉ ['\x5d', '\ufeff']

/-- true of characters that begin no text, list or table either -/
def OpensScalar (c : Char) : Prop := Opens c ∧ c ∉ ['"', '\x5b', '\x7b']

instance : DecidablePred Opens := fun c => inferInstanceAs (Decidable (isSpace c = false ∧ c ∉ ['\x5d', '\ufeff']))

instance : DecidablePred OpensScalar := fun c => inferInstanceAs (Decidable (Opens c ∧ c ∉ ['"', '\x5b', '\x7b']))

/-- a text of a datum -/
structure Spells (cs : List Char) (d : Datum) : Prop where
  starts : ∃ c rest, cs = c :: rest ∧ Opens c
  reads : ∀ fuel rest, 2 * cs.length ≤ fuel → Stops rest → value fuel (cs ++ rest) = .ok (d, rest)

/-- a text of a member of a table: its key, a colon and a text of its datum -/
def SpellsMember (cs : List Char) (m : String × Datum) : Prop :=
  ∃ t, cs = (stringText m.1).toList ++ ':' :: ' ' :: t ∧ Spells t m.2

variable {cs rest gap before after : List Char} {d : Datum} {c : Char} {fuel : Nat} {texts : List (List Char)}
  {ds : List Datum} {members : List (String × Datum)} {k : String}

/-! ## What stands around -/

theorem gap_nil : Gap [] := by
  intro c hc
  cases hc

theorem gap_blank : Gap [' '] := by simp [Gap, isSpace]

theorem skip_gap (hgap : Gap gap) (hc : isSpace c = false) : skip (gap ++ c :: rest) = c :: rest := by
  rw [skip, List.dropWhile_append_of_pos hgap, List.dropWhile_cons_of_neg (by simpa using hc)]

/-- what ends an item or a member -/
def IsEnd (c : Char) : Prop := c = ',' ∨ c = '\x5d' ∨ c = '\x7d'

theorem IsEnd.isSpace_eq_false (h : IsEnd c) : isSpace c = false := by
  rcases h with rfl | rfl | rfl <;> rfl

/-- an end is not skipped -/
theorem skip_end (h : IsEnd c) : skip (c :: rest) = c :: rest := skip_gap gap_nil h.isSpace_eq_false

/-- no number goes on with blanks or an end -/
theorem stops_gap (hgap : Gap gap) (h : IsEnd c) : Stops (gap ++ c :: rest) := by
  intro x hx
  have hx' : x = c ∨ isSpace x = true := by
    cases gap with
    | nil => exact Or.inl (Option.some.inj hx).symm
    | cons y gap => exact Or.inr (Option.some.inj hx ▸ hgap y List.mem_cons_self)
  rcases hx' with rfl | hspace
  · rcases h with rfl | rfl | rfl <;> decide
  · simp only [isSpace, Bool.or_eq_true, decide_eq_true_eq] at hspace
    rcases hspace with ((rfl | rfl) | rfl) | rfl <;> decide

/-- a text that is not empty is read with fuel left over -/
theorem spells_of_value (hcs : ∃ c tail, cs = c :: tail ∧ Opens c)
    (h : ∀ fuel rest, 2 * cs.length ≤ fuel + 1 → Stops rest → value (fuel + 1) (cs ++ rest) = .ok (d, rest)) :
    Spells cs d := by
  refine ⟨hcs, fun fuel rest hfuel hrest => ?_⟩
  obtain ⟨c, tail, rfl, -⟩ := hcs
  cases fuel with
  | zero => exact absurd hfuel (by simp)
  | succ fuel => exact h fuel rest hfuel hrest

/-! ## Data without parts -/

/-- what begins no text, list or table is read as a scalar -/
theorem value_eq_scalar (h : OpensScalar c) : value (fuel + 1) (c :: cs) = scalar (c :: cs) := by
  have hne := h.2
  simp only [List.mem_cons, List.not_mem_nil, or_false, not_or] at hne
  rw [value]
  · exact fun _ he => hne.1 (List.cons.inj he).1
  · exact fun _ he => hne.2.1 (List.cons.inj he).1
  · exact fun _ he => hne.2.2 (List.cons.inj he).1

theorem spells_of_scalar (hcs : ∃ c tail, cs = c :: tail ∧ OpensScalar c)
    (h : ∀ rest, Stops rest → scalar (cs ++ rest) = .ok (d, rest)) : Spells cs d := by
  obtain ⟨c, tail, rfl, hc⟩ := hcs
  refine spells_of_value ⟨c, tail, rfl, hc.1⟩ fun fuel rest _ hrest => ?_
  rw [List.cons_append, value_eq_scalar hc, ← List.cons_append, h rest hrest]

theorem spells_null : Spells "null".toList .null :=
  spells_of_scalar ⟨'n', _, rfl, by decide⟩ fun _ _ => rfl

theorem spells_bool (b : Bool) : Spells (if b then "true" else "false").toList (.bool b) := by
  cases b with
  | true => exact spells_of_scalar ⟨'t', _, rfl, by decide⟩ fun _ _ => rfl
  | false => exact spells_of_scalar ⟨'f', _, rfl, by decide⟩ fun _ _ => rfl

theorem opensScalar_of_digit (h : '0' ≤ c ∧ c ≤ '9') : OpensScalar c := by
  have hne : ∀ x, ¬ ('0' ≤ x ∧ x ≤ '9') → c ≠ x := fun x hx he => hx (he ▸ h)
  refine ⟨⟨?_, ?_⟩, ?_⟩
  · simp only [isSpace, Bool.or_eq_false_iff, decide_eq_false_iff_not]
    exact ⟨⟨⟨hne ' ' (by decide), hne '\t' (by decide)⟩, hne '\n' (by decide)⟩, hne '\r' (by decide)⟩
  · simp only [List.mem_cons, List.not_mem_nil, or_false, not_or]
    exact ⟨hne '\x5d' (by decide), hne '\ufeff' (by decide)⟩
  · simp only [List.mem_cons, List.not_mem_nil, or_false, not_or]
    exact ⟨hne '"' (by decide), hne '\x5b' (by decide), hne '\x7b' (by decide)⟩

theorem spells_int {i : Int} (h : Number.isTooLong i = false) : Spells (Number.showInt i).toList (.int i) := by
  refine spells_of_scalar ?_ fun rest hrest => scalar_showInt h hrest
  obtain ⟨x, xs, hxs⟩ := List.exists_cons_of_ne_nil (Text.toDigits_ne_nil i.natAbs)
  have hx : '0' ≤ x ∧ x ≤ '9' := mem_toDigits_bounds (n := i.natAbs) (hxs ▸ List.mem_cons_self)
  rw [toList_showInt, hxs]
  by_cases hneg : i < 0
  · rw [if_pos hneg]
    exact ⟨'-', x :: xs, rfl, by decide⟩
  · rw [if_neg hneg]
    exact ⟨x, xs, rfl, opensScalar_of_digit hx⟩

theorem toList_stringText (s : String) : (stringText s).toList = '"' :: (s.toList.flatMap escapeChar ++ ['"']) := by
  rw [stringText, String.toList_ofList, List.cons_append]

/-- a quoted text is read up to its closing quote -/
theorem stringBody_quoted (s : String) (opening : List Char) :
    stringBody opening ((s.toList.flatMap escapeChar ++ '"' :: rest).length + 1)
      (s.toList.flatMap escapeChar ++ '"' :: rest) = .ok (Text.signs s.toList, rest) := by
  refine stringBody_flatMap ?_
  have hlength := length_le_length_flatMap s.toList
  rw [List.length_append]
  omega

theorem spells_text (s : String) : Spells (stringText s).toList (.text s) := by
  rw [toList_stringText]
  refine spells_of_value ⟨'"', _, rfl, by decide⟩ fun fuel rest _ _ => ?_
  rw [List.cons_append, List.append_assoc, List.singleton_append, value, stringBody_quoted]
  simp [Except.map]

/-! ## Lists -/

theorem spells_nil : Spells "[]".toList (.list []) :=
  spells_of_value ⟨'\x5b', _, rfl, by decide⟩ fun _ _ _ _ => rfl

/-- joined texts begin as the first of them does -/
theorem exists_intercalate_eq_cons {sep t tail : List Char} (h : t = c :: tail) :
    ∃ tail', sep.intercalate (t :: texts) = c :: tail' := by
  subst h
  cases texts with
  | nil => exact ⟨tail, List.intercalate_singleton⟩
  | cons t' texts => exact ⟨_, by rw [List.intercalate_cons_cons, List.cons_append, List.cons_append]⟩

/-- items are read up to the closing bracket -/
theorem items_intercalate (hgap : Gap gap) (hafter : Gap after) (h : List.Forall₂ Spells texts ds) (hne : texts ≠ [])
    (hfuel : 2 * (((',' :: gap).intercalate texts).length + 1) ≤ fuel) :
    items fuel ((',' :: gap).intercalate texts ++ (after ++ '\x5d' :: rest)) = .ok (ds, rest) := by
  have hclose : IsEnd '\x5d' := by simp [IsEnd]
  have hcomma : IsEnd ',' := by simp [IsEnd]
  induction h generalizing fuel with
  | nil => exact absurd rfl hne
  | @cons t d texts ds ht hts ih =>
    obtain ⟨fuel, rfl⟩ : ∃ f, fuel = f + 1 := ⟨fuel - 1, by omega⟩
    cases hts with
    | nil =>
      rw [List.intercalate_singleton] at hfuel ⊢
      have hvalue := ht.reads fuel (after ++ '\x5d' :: rest) (by omega) (stops_gap hafter hclose)
      rw [items, hvalue]
      simp only [bind, Except.bind, skip_gap hafter hclose.isSpace_eq_false]
    | @cons t' d' texts ds ht' hts =>
      have hmore := @ih fuel (by simp)
      obtain ⟨c, tail, ht'eq, hc⟩ := ht'.starts
      obtain ⟨tail', hjoined⟩ := @exists_intercalate_eq_cons c texts (',' :: gap) t' tail ht'eq
      rw [List.intercalate_cons_cons, List.length_append, List.length_append, List.length_cons] at hfuel
      rw [List.intercalate_cons_cons, List.append_assoc, List.append_assoc, List.cons_append]
      rw [hjoined] at hfuel hmore ⊢
      have hvalue := ht.reads fuel (',' :: (gap ++ (c :: tail' ++ (after ++ '\x5d' :: rest)))) (by omega)
        (stops_gap gap_nil hcomma)
      rw [items, hvalue]
      simp only [bind, Except.bind, skip_end hcomma]
      rw [List.cons_append, skip_gap hgap hc.1, ← List.cons_append, hmore (by omega)]
      rfl

theorem spells_list (hbefore : Gap before) (hgap : Gap gap) (hafter : Gap after) (h : List.Forall₂ Spells texts ds)
    (hne : texts ≠ []) :
    Spells ('\x5b' :: (before ++ ((',' :: gap).intercalate texts ++ (after ++ ['\x5d'])))) (.list ds) := by
  refine spells_of_value ⟨'\x5b', _, rfl, by decide⟩ fun fuel rest hfuel _ => ?_
  obtain ⟨c, tail, hjoined, hc⟩ : ∃ c tail, (',' :: gap).intercalate texts = c :: tail ∧ Opens c := by
    cases h with
    | nil => exact absurd rfl hne
    | cons ht _ =>
      obtain ⟨c, tail, heq, hc⟩ := ht.starts
      obtain ⟨tail', hjoined⟩ := exists_intercalate_eq_cons heq
      exact ⟨c, tail', hjoined, hc⟩
  have hitems := @items_intercalate rest gap after fuel texts ds hgap hafter h hne (by simp at hfuel; omega)
  rw [hjoined] at hitems ⊢
  simp only [List.cons_append, List.append_assoc, List.nil_append] at hitems ⊢
  rw [value, skip_gap hbefore hc.1]
  split
  · rename_i heq
    rw [(List.cons.inj heq).1] at hc
    exact absurd hc (by decide)
  · rw [hitems]
    rfl

/-! ## Tables -/

theorem spells_empty : Spells "\x7b\x7d".toList (.table []) :=
  spells_of_value ⟨'\x7b', _, rfl, by decide⟩ fun _ _ _ _ => rfl

theorem SpellsMember.exists_eq_cons {m : String × Datum} (h : SpellsMember cs m) : ∃ tail, cs = '"' :: tail := by
  obtain ⟨t, rfl, -⟩ := h
  exact ⟨_, by rw [toList_stringText, List.cons_append]⟩

/-- a member is read and added to those before it; what follows decides how it goes on -/
theorem members_spelled {m : String × Datum} (h : SpellsMember cs m) (hnew : m.1 ∉ members.map Prod.fst)
    (hfuel : 2 * cs.length ≤ fuel + 2) (hafter : Gap after) (hc : IsEnd c) :
    Json.members (fuel + 1) (.table members) (cs ++ (after ++ c :: rest)) =
      if c = '\x7d' then .ok (.table (members ++ [m]), rest)
      else if c = ',' then Json.members fuel (.table (members ++ [m])) (skip rest)
      else .error ⟨.comma, c :: rest⟩ := by
  obtain ⟨t, rfl, ht⟩ := h
  obtain ⟨x, xs, rfl, hx⟩ := ht.starts
  have hcolon : skip (':' :: ' ' :: (x :: xs ++ (after ++ c :: rest))) = ':' :: ' ' :: (x :: xs ++ (after ++ c :: rest)) :=
    skip_gap gap_nil (by decide)
  have hblank : skip (' ' :: (x :: xs ++ (after ++ c :: rest))) = x :: xs ++ (after ++ c :: rest) :=
    skip_gap gap_blank hx.1
  have hvalue := ht.reads fuel (after ++ c :: rest) (by simp [toList_stringText] at hfuel; simp; omega)
    (stops_gap hafter hc)
  have htext : (stringText m.1).toList ++ ':' :: ' ' :: x :: xs ++ (after ++ c :: rest) =
      '"' :: (m.1.toList.flatMap escapeChar ++ '"' :: ':' :: ' ' :: (x :: xs ++ (after ++ c :: rest))) := by
    simp [toList_stringText]
  rw [htext, Json.members, stringBody_quoted]
  simp only [bind, Except.bind, hcolon, hblank, hvalue, skip_gap hafter hc.isSpace_eq_false, Datum.withMember_signs,
    String.ofList_toList, Datum.put_of_not_mem hnew]
  rcases hc with rfl | rfl | rfl <;> rfl

/-- members are read up to the closing brace -/
theorem members_intercalate (hgap : Gap gap) (hafter : Gap after) {ms : List (String × Datum)}
    (h : List.Forall₂ SpellsMember texts ms) (hne : texts ≠ []) (hkeys : ((members ++ ms).map Prod.fst).Nodup)
    (hfuel : 2 * (((',' :: gap).intercalate texts).length + 1) ≤ fuel) :
    Json.members fuel (.table members) ((',' :: gap).intercalate texts ++ (after ++ '\x7d' :: rest)) =
      .ok (.table (members ++ ms), rest) := by
  have hclose : IsEnd '\x7d' := by simp [IsEnd]
  have hcomma : IsEnd ',' := by simp [IsEnd]
  induction h generalizing fuel members with
  | nil => exact absurd rfl hne
  | @cons t m texts ms ht hts ih =>
    obtain ⟨fuel, rfl⟩ : ∃ f, fuel = f + 1 := ⟨fuel - 1, by omega⟩
    have hnew : m.1 ∉ members.map Prod.fst := by
      rw [List.map_append, List.nodup_append] at hkeys
      exact fun hm => hkeys.2.2 m.1 hm m.1 (by simp) rfl
    cases hts with
    | nil =>
      rw [List.intercalate_singleton] at hfuel ⊢
      rw [members_spelled ht hnew (by omega) hafter hclose, if_pos rfl]
    | @cons t' m' texts ms ht' hts =>
      have hmore := @ih fuel (members ++ [m]) (by simp) (by simpa using hkeys)
      obtain ⟨tail, ht'eq⟩ := ht'.exists_eq_cons
      obtain ⟨tail', hjoined⟩ := @exists_intercalate_eq_cons '"' texts (',' :: gap) t' tail ht'eq
      rw [List.intercalate_cons_cons, List.length_append, List.length_append, List.length_cons] at hfuel
      rw [List.intercalate_cons_cons, List.append_assoc, List.append_assoc, List.cons_append]
      rw [hjoined] at hfuel hmore ⊢
      have hstep := @members_spelled t (gap ++ ('"' :: tail' ++ (after ++ '\x7d' :: rest))) [] ',' fuel members m ht hnew
        (by omega) gap_nil hcomma
      rw [List.nil_append] at hstep
      rw [hstep, if_neg (by decide), if_pos rfl, List.cons_append, skip_gap hgap (by decide), ← List.cons_append,
        hmore (by omega), List.append_assoc]
      rfl

theorem spells_table (hbefore : Gap before) (hgap : Gap gap) (hafter : Gap after)
    (h : List.Forall₂ SpellsMember texts members) (hne : texts ≠ []) (hkeys : (members.map Prod.fst).Nodup) :
    Spells ('\x7b' :: (before ++ ((',' :: gap).intercalate texts ++ (after ++ ['\x7d'])))) (.table members) := by
  refine spells_of_value ⟨'\x7b', _, rfl, by decide⟩ fun fuel rest hfuel _ => ?_
  obtain ⟨tail, hjoined⟩ : ∃ tail, (',' :: gap).intercalate texts = '"' :: tail := by
    cases h with
    | nil => exact absurd rfl hne
    | cons ht _ =>
      obtain ⟨tail, heq⟩ := ht.exists_eq_cons
      exact exists_intercalate_eq_cons heq
  have hmembers := @members_intercalate rest gap after fuel texts [] hgap hafter members h hne hkeys
    (by simp at hfuel; omega)
  rw [hjoined] at hmembers ⊢
  simp only [List.cons_append, List.append_assoc, List.nil_append] at hmembers ⊢
  rw [value, skip_gap hbefore (by decide)]
  split
  · rename_i heq
    exact absurd (List.cons.inj heq).1 (by decide)
  · rw [hmembers]

/-! ## What is written -/

mutual

/-- true of data that JSON keeps: no integer is too long, no table has two members with one key, no text is broken, and
there are neither reals nor moments -/
def Portable : Datum → Prop
  | .int i => Number.isTooLong i = false
  | .list items => PortableItems items
  | .table members => (members.map Prod.fst).Nodup ∧ PortableMembers members
  | .real _ | .moment _ | .broken _ | .brokenTable _ => False
  | .null | .bool _ | .text _ => True

/-- `Portable` on the items of a list -/
def PortableItems : List Datum → Prop
  | [] => True
  | d :: ds => Portable d ∧ PortableItems ds

/-- `Portable` on the members of a table -/
def PortableMembers : List (String × Datum) → Prop
  | [] => True
  | (_, d) :: members => Portable d ∧ PortableMembers members

end

variable {half : Text.Half → Char}

mutual

/-- **What is written of a datum on one line is a text of it** -/
theorem spells_compact : ∀ d, Portable d → Spells (compact half d).toList d
  | .null, _ => spells_null
  | .bool b, _ => spells_bool b
  | .int _, h => spells_int h
  | .text s, _ => spells_text s
  | .list [], _ => spells_nil
  | .list (d :: ds), h => by
    have hitems := spells_list gap_nil gap_blank gap_nil (spells_compactItems (d :: ds) h) (List.cons_ne_nil _ _)
    simpa [compact, String.toList_intercalate] using hitems
  | .table [], _ => spells_empty
  | .table (m :: members), h => by
    have hmembers := spells_table gap_nil gap_blank gap_nil (spells_compactMembers (m :: members) h.2)
      (List.cons_ne_nil _ _) h.1
    simpa [compact, String.toList_intercalate] using hmembers
  | .real _, h => h.elim
  | .moment _, h => h.elim
  | .broken _, h => h.elim
  | .brokenTable _, h => h.elim

theorem spells_compactItems : ∀ ds, PortableItems ds → List.Forall₂ Spells ((compactItems half ds).map String.toList) ds
  | [], _ => .nil
  | d :: ds, h => .cons (spells_compact d h.1) (spells_compactItems ds h.2)

theorem spells_compactMembers : ∀ members, PortableMembers members →
    List.Forall₂ SpellsMember ((compactMembers half members).map String.toList) members
  | [], _ => .nil
  | (k, d) :: members, h =>
    .cons ⟨(compact half d).toList, by simp, spells_compact d h.1⟩ (spells_compactMembers members h.2)

end

theorem gap_newline (depth : Nat) : Gap (newline depth).toList := by
  have htext : (newline depth).toList = '\n' :: List.replicate (2 * depth) ' ' := by simp [newline]
  intro c hc
  rw [htext] at hc
  rcases List.mem_cons.1 hc with rfl | hc
  · rfl
  · rw [List.eq_of_mem_replicate hc]
    rfl

/-- items on lines of their own stand between their brackets with line breaks around them -/
theorem toList_block (opening closing : String) (depth : Nat) (item : String) (items : List String) :
    (block opening closing depth (item :: items)).toList = opening.toList ++ ((newline (depth + 1)).toList ++
      ((',' :: (newline (depth + 1)).toList).intercalate ((item :: items).map String.toList) ++
        ((newline depth).toList ++ closing.toList))) := by
  simp [block, String.toList_intercalate]

mutual

/-- **and so is what is written of it on several lines**, at every depth -/
theorem spells_indentedAt : ∀ (depth : Nat) (d : Datum), Portable d → Spells (indentedAt half depth d).toList d
  | _, .null, _ => spells_null
  | _, .bool b, _ => spells_bool b
  | _, .int _, h => spells_int h
  | _, .text s, _ => spells_text s
  | _, .list [], _ => spells_nil
  | depth, .list (d :: ds), h => by
    have hitems := spells_list (gap_newline (depth + 1)) (gap_newline (depth + 1)) (gap_newline depth)
      (spells_indentedItems (depth + 1) (d :: ds) h) (List.cons_ne_nil _ _)
    rwa [indentedAt, indentedItems, toList_block]
  | _, .table [], _ => spells_empty
  | depth, .table ((k, d) :: members), h => by
    have hmembers := spells_table (gap_newline (depth + 1)) (gap_newline (depth + 1)) (gap_newline depth)
      (spells_indentedMembers (depth + 1) ((k, d) :: members) h.2) (List.cons_ne_nil _ _) h.1
    rwa [indentedAt, indentedMembers, toList_block]
  | _, .real _, h => h.elim
  | _, .moment _, h => h.elim
  | _, .broken _, h => h.elim
  | _, .brokenTable _, h => h.elim

theorem spells_indentedItems : ∀ (depth : Nat) (ds : List Datum), PortableItems ds →
    List.Forall₂ Spells ((indentedItems half depth ds).map String.toList) ds
  | _, [], _ => .nil
  | depth, d :: ds, h => .cons (spells_indentedAt depth d h.1) (spells_indentedItems depth ds h.2)

theorem spells_indentedMembers : ∀ (depth : Nat) (members : List (String × Datum)), PortableMembers members →
    List.Forall₂ SpellsMember ((indentedMembers half depth members).map String.toList) members
  | _, [], _ => .nil
  | depth, (k, d) :: members, h =>
    .cons ⟨(indentedAt half depth d).toList, by simp, spells_indentedAt depth d h.1⟩ (spells_indentedMembers depth members h.2)

end

/-- a whole text of a datum is read as this datum -/
theorem read_of_spells (h : Spells cs d) : read cs = .ok d := by
  have hvalue := h.reads (2 * cs.length + 2) [] (by omega) stops_nil
  obtain ⟨c, tail, rfl, hspace, hc⟩ := h.starts
  have hmark : c ≠ '\ufeff' := fun he => hc (by simp [he])
  have hskip : skip (c :: tail) = c :: tail := skip_gap gap_nil hspace
  rw [List.append_nil] at hvalue
  rw [read, if_neg (by simpa using hmark), hskip, hvalue]
  rfl

/-- **What is written on one line is read back** -/
theorem read_compact (h : Portable d) : read (compact half d).toList = .ok d := read_of_spells (spells_compact d h)

/-- **What is written on several lines is read back** -/
theorem read_indented (h : Portable d) : read (indented half d).toList = .ok d := read_of_spells (spells_indentedAt 0 d h)

/-! ## What is settled -/

mutual

/-- a datum that JSON keeps can be written out -/
theorem hasLongInt_eq_false : ∀ d, Portable d → d.hasLongInt = false
  | .null, _ | .bool _, _ | .text _, _ => rfl
  | .int _, h => h
  | .list items, h => anyLong_eq_false items h
  | .table members, h => memberLong_eq_false members h.2
  | .real _, h => h.elim
  | .moment _, h => h.elim
  | .broken _, h => h.elim
  | .brokenTable _, h => h.elim

theorem anyLong_eq_false : ∀ ds, PortableItems ds → Datum.anyLong ds = false
  | [], _ => rfl
  | d :: ds, h => by rw [Datum.anyLong, hasLongInt_eq_false d h.1, anyLong_eq_false ds h.2, Bool.or_self]

theorem memberLong_eq_false : ∀ members, PortableMembers members → Datum.memberLong members = false
  | [], _ => rfl
  | (_, d) :: members, h => by
    rw [Datum.memberLong, hasLongInt_eq_false d h.1, memberLong_eq_false members h.2, Bool.or_self]

end

mutual

/-- no half stands in a datum that JSON keeps, so it makes no difference what halves are written as -/
theorem compact_congr (half half' : Text.Half → Char) : ∀ d, Portable d → compact half d = compact half' d
  | .null, _ | .bool _, _ | .text _, _ | .int _, _ => rfl
  | .list items, h => by rw [compact, compact, compactItems_congr half half' items h]
  | .table members, h => by rw [compact, compact, compactMembers_congr half half' members h.2]
  | .real _, h => h.elim
  | .moment _, h => h.elim
  | .broken _, h => h.elim
  | .brokenTable _, h => h.elim

theorem compactItems_congr (half half' : Text.Half → Char) :
    ∀ ds, PortableItems ds → compactItems half ds = compactItems half' ds
  | [], _ => rfl
  | d :: ds, h => by
    rw [compactItems, compactItems, compact_congr half half' d h.1, compactItems_congr half half' ds h.2]

theorem compactMembers_congr (half half' : Text.Half → Char) :
    ∀ members, PortableMembers members → compactMembers half members = compactMembers half' members
  | [], _ => rfl
  | (k, d) :: members, h => by
    rw [compactMembers, compactMembers, compact_congr half half' d h.1, compactMembers_congr half half' members h.2]

end

mutual

theorem indentedAt_congr (half half' : Text.Half → Char) :
    ∀ depth d, Portable d → indentedAt half depth d = indentedAt half' depth d
  | _, .null, _ | _, .bool _, _ | _, .text _, _ | _, .int _, _ => rfl
  | depth, .list items, h => by rw [indentedAt, indentedAt, indentedItems_congr half half' (depth + 1) items h]
  | depth, .table members, h => by rw [indentedAt, indentedAt, indentedMembers_congr half half' (depth + 1) members h.2]
  | _, .real _, h => h.elim
  | _, .moment _, h => h.elim
  | _, .broken _, h => h.elim
  | _, .brokenTable _, h => h.elim

theorem indentedItems_congr (half half' : Text.Half → Char) :
    ∀ depth ds, PortableItems ds → indentedItems half depth ds = indentedItems half' depth ds
  | _, [], _ => rfl
  | depth, d :: ds, h => by
    rw [indentedItems, indentedItems, indentedAt_congr half half' depth d h.1, indentedItems_congr half half' depth ds h.2]

theorem indentedMembers_congr (half half' : Text.Half → Char) :
    ∀ depth members, PortableMembers members → indentedMembers half depth members = indentedMembers half' depth members
  | _, [], _ => rfl
  | depth, (k, d) :: members, h => by
    rw [indentedMembers, indentedMembers, indentedAt_congr half half' depth d h.1,
      indentedMembers_congr half half' depth members h.2]

end

variable [Interpreter]

/-- **What JSON keeps is written on one line**, if the stack is large enough for it -/
theorem text_compact (h : Portable d) (hroom : Interpreter.unwritten? .json d = none) :
    text compact d = .ok (compact half d) := by
  simp only [text, hroom, hasLongInt_eq_false d h, Bool.false_eq_true, if_false]
  exact Failure.settled_of_const fun half' => congrArg Except.ok (compact_congr half' half d h)

/-- **and on several lines** -/
theorem text_indented (h : Portable d) (hroom : Interpreter.unwritten? .json d = none) :
    text indented d = .ok (indented half d) := by
  simp only [text, hroom, hasLongInt_eq_false d h, Bool.false_eq_true, if_false]
  exact Failure.settled_of_const fun half' => congrArg Except.ok (indentedAt_congr half' half 0 d h)

end ChangeLint.Json
