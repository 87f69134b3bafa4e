/-
What an identity tells apart.

An identity is the digest of some bytes (`identityBytes`): the scope of a finding, its path and its line as far as it has
them, and its text, joined by the unit separator. The text stands last and may hold anything. As long as the fields in front
of it do not hold the separator (`IsSeparable`), each of them ends at the first separator behind it, so the bytes give back
all fields and the text: first the scope, which tells how many fields there are, then one after the other
(`ended_front_eq_iff`).

`identities_separate`: the bytes of two findings are the same exactly if the findings say the same of the same place. What
else a finding carries has no part in its identity.
-/
import ChangeLint.Proofs.Finding.Place

namespace ChangeLint.Finding

/-! ## What is digested -/

/-- the bytes that an identity is the digest of -/
def identityBytes [Interpreter] (f : Finding) : Except Failure (List UInt8) :=
  f.identityText.map fun s => Text.Utf8.encode s.toList

/-- the first sixteen hexadecimal digits of the digest of some bytes -/
def shortDigest (bytes : List UInt8) : String :=
  String.ofList (((Sha256.digest bytes).flatMap fun b => Text.hexPadded 2 b.toNat).take 16)

theorem identity_eq_map_identityBytes [Interpreter] (f : Finding) : f.identity = f.identityBytes.map shortDigest := by
  unfold identity identityBytes
  cases f.identityText <;> rfl

/-- the fields in front of the text -/
def front (f : Finding) : List (List Char) :=
  f.scope.toList :: ((f.path?.map fun path => path.plain.toList).toList ++
    (f.line?.map fun number => number.plain.toList).toList)

/-- fields, each ended by the separator, and a text behind them -/
def ended (fields : List (List Char)) (text : List Char) : List Char := fields.flatMap (· ++ ['\x1f']) ++ text

/-- findings that say the same of the same place, written in the same way -/
structure SaysSame [Interpreter] (f g : Finding) : Prop where
  scope : f.scope = g.scope
  path : f.path? = g.path?
  line : f.line?.map written = g.line?.map written
  text : f.text = g.text

/-- findings with texts for their path and their text and a line that can be written; path and line do not hold the separator -/
structure IsSeparable [Interpreter] (f : Finding) : Prop where
  text : f.text.isText
  path : ∀ path ∈ f.path?, path.isText ∧ '\x1f' ∉ path.plain.toList
  line : ∀ number ∈ f.line?, written number = .ok (.text number.plain) ∧ '\x1f' ∉ number.plain.toList

variable {f g : Finding} {parts : List Datum} {fields others : List (List Char)} {x y t u : List Char}

/-! ## Fields come apart -/

/-- a field without the separator ends where the separator stands first -/
theorem append_separator_inj (hx : '\x1f' ∉ x) (hy : '\x1f' ∉ y) :
    x ++ '\x1f' :: t = y ++ '\x1f' :: u ↔ x = y ∧ t = u := by
  have hfront : ∀ z w : List Char, '\x1f' ∉ z → (z ++ '\x1f' :: w).takeWhile (· ≠ '\x1f') = z := by
    intro z w hz
    have hne : ∀ c ∈ z, decide (c ≠ '\x1f') = true := fun c hc => decide_eq_true fun h => hz (h ▸ hc)
    rw [List.takeWhile_append_of_pos hne, List.takeWhile_cons_of_neg (by simp), List.append_nil]
  constructor
  · intro h
    have hxy : x = y := by rw [← hfront x t hx, h, hfront y u hy]
    subst hxy
    exact ⟨rfl, by simpa using h⟩
  · rintro ⟨rfl, rfl⟩
    rfl

theorem ended_cons (x : List Char) (fields : List (List Char)) (t : List Char) :
    ended (x :: fields) t = x ++ '\x1f' :: ended fields t := by
  simp [ended]

/-- as many fields without the separator on both sides are the same, one by one, and so is what stands behind them -/
theorem ended_inj (hlen : fields.length = others.length) (hfields : ∀ x ∈ fields, '\x1f' ∉ x)
    (hothers : ∀ x ∈ others, '\x1f' ∉ x) : ended fields t = ended others u ↔ fields = others ∧ t = u := by
  induction fields generalizing others with
  | nil =>
    obtain rfl := List.length_eq_zero_iff.1 hlen.symm
    simp [ended]
  | cons x fields ih =>
    obtain ⟨y, others, rfl⟩ := List.exists_cons_of_length_eq_add_one hlen.symm
    rw [List.forall_mem_cons] at hfields hothers
    have hrest := ih (by simpa using hlen) hfields.2 hothers.2
    rw [ended_cons, ended_cons, append_separator_inj hfields.1 hothers.1, hrest, List.cons.injEq, and_assoc]

theorem intercalate_concat (fields : List (List Char)) (t : List Char) :
    ['\x1f'].intercalate (fields ++ [t]) = ended fields t := by
  induction fields with
  | nil => simp [ended]
  | cons x fields ih =>
    obtain ⟨y, rest, hrest⟩ := List.exists_cons_of_ne_nil (List.append_ne_nil_of_right_ne_nil fields (List.cons_ne_nil t []))
    rw [List.cons_append, hrest, List.intercalate_cons_cons, ← hrest, ih, ended_cons, List.append_assoc,
      List.singleton_append]

/-! ## Fields of findings -/

theorem separator_not_mem_scope (f : Finding) : '\x1f' ∉ f.scope.toList := by
  have hwords : ∀ word ∈ ["merge_request", "file", "line"], '\x1f' ∉ word.toList := by decide
  cases f with
  | mergeRequest text source severity => exact hwords _ (by simp [scope])
  | file path text source severity => exact hwords _ (by simp [scope])
  | line path number kind text source severity => exact hwords _ (by simp [scope])

/-- the number of fields in front of the text -/
def fieldCount (scope : String) : Nat := if scope = "line" then 3 else if scope = "file" then 2 else 1

theorem length_front (f : Finding) : f.front.length = fieldCount f.scope := by
  cases f <;> rfl

theorem plain_toList_inj {d e : Datum} (hd : d.isText) (he : e.isText) : d.plain.toList = e.plain.toList ↔ d = e := by
  constructor
  · intro h
    rw [eq_text_of_isText hd, eq_text_of_isText he, String.toList_injective h]
  · rintro rfl
    rfl

section

variable [Interpreter]

theorem separator_not_mem_front (h : f.IsSeparable) : ∀ x ∈ f.front, '\x1f' ∉ x := by
  intro x hx
  rw [front, List.mem_cons, List.mem_append, Option.mem_toList, Option.mem_toList] at hx
  rcases hx with rfl | hx | hx
  · exact separator_not_mem_scope f
  · obtain ⟨path, hpath, rfl⟩ := Option.mem_map.1 hx
    exact (h.path path hpath).2
  · obtain ⟨number, hnumber, rfl⟩ := Option.mem_map.1 hx
    exact (h.line number hnumber).2

/-- the fields and the text of a finding can be told from what joins them -/
theorem ended_front_eq_iff (hf : f.IsSeparable) (hg : g.IsSeparable) :
    ended f.front t = ended g.front u ↔ f.front = g.front ∧ t = u := by
  constructor
  · intro h
    -- the scopes come apart first: they tell that there are as many fields on both sides
    have hscope : f.scope = g.scope := by
      rw [front, front, ended_cons, ended_cons,
        append_separator_inj (separator_not_mem_scope f) (separator_not_mem_scope g)] at h
      exact String.toList_injective h.1
    have hlen : f.front.length = g.front.length := by rw [length_front, length_front, hscope]
    exact (ended_inj hlen (separator_not_mem_front hf) (separator_not_mem_front hg)).1 h
  · rintro ⟨hfront, rfl⟩
    rw [hfront]

/-- findings have the same fields exactly if they are of the same place -/
theorem front_eq_iff (hf : f.IsSeparable) (hg : g.IsSeparable) :
    f.front = g.front ↔
      f.scope = g.scope ∧ f.path? = g.path? ∧ f.line?.map written = g.line?.map written := by
  cases f with
  | mergeRequest text source severity => cases g <;> simp [front, scope, path?, line?]
  | file path text source severity =>
    cases g with
    | file path' text' source' severity' =>
      have hpath := plain_toList_inj (hf.path path rfl).1 (hg.path path' rfl).1
      simp [front, scope, path?, line?, hpath]
    | _ => simp [front, scope]
  | line path number kind text source severity =>
    cases g with
    | line path' number' kind' text' source' severity' =>
      have hpath := plain_toList_inj (hf.path path rfl).1 (hg.path path' rfl).1
      have hnumber := (hf.line number rfl).1
      have hnumber' := (hg.line number' rfl).1
      simp [front, scope, path?, line?, hpath, hnumber, hnumber', String.toList_inj]
    | _ => simp [front, scope]

/-! ## Identities -/

/-- the parts of an identity are the fields and the text -/
theorem exists_identityParts_eq (h : f.IsSeparable) : ∃ parts, f.identityParts = .ok parts ∧ (∀ d ∈ parts, d.isText) ∧
    (parts.map Datum.plain).map String.toList = f.front ++ [f.text.plain.toList] := by
  have htext := h.text
  cases f with
  | mergeRequest text source severity =>
    refine ⟨_, rfl, ?_, rfl⟩
    simp only [List.forall_mem_cons, List.not_mem_nil, false_implies, implies_true, and_true]
    exact ⟨rfl, htext⟩
  | file path text source severity =>
    have hpath := (h.path path rfl).1
    refine ⟨_, rfl, ?_, rfl⟩
    simp only [List.forall_mem_cons, List.not_mem_nil, false_implies, implies_true, and_true]
    exact ⟨rfl, hpath, htext⟩
  | line path number kind text source severity =>
    have hpath := (h.path path rfl).1
    refine ⟨[.text "line", path, .text number.plain, text], by rw [identityParts, (h.line number rfl).1]; rfl, ?_, rfl⟩
    simp only [List.forall_mem_cons, List.not_mem_nil, false_implies, implies_true, and_true]
    exact ⟨rfl, hpath, rfl, htext⟩

/-- the bytes are those of the fields and the text -/
theorem identityBytes_eq (h : f.IsSeparable) :
    f.identityBytes = .ok (Text.Utf8.encode (ended f.front f.text.plain.toList)) := by
  obtain ⟨parts, hparts, htexts, hplain⟩ := exists_identityParts_eq h
  have hseparator : unitSeparator.toList = ['\x1f'] := rfl
  rw [identityBytes, identityText, hparts, ok_bind, joinParts_of_isText htexts, Except.map, String.toList_intercalate,
    hseparator, hplain, intercalate_concat]

/-- the parts of an identity, as far as the line can be written -/
theorem identityParts_eq (f : Finding) : f.identityParts =
    (match f.line?.map written with | none => .ok [] | some w => w.map fun n => [n]) >>= fun number =>
      .ok (.text f.scope :: (f.path?.toList ++ number ++ [f.text])) := by
  cases f with
  | mergeRequest text source severity => rfl
  | file path text source severity => rfl
  | line path number kind text source severity =>
    simp only [identityParts, line?, Option.map_some]
    cases written number <;> rfl

theorem SaysSame.identity_eq (h : f.SaysSame g) : f.identity = g.identity := by
  have hparts : f.identityParts = g.identityParts := by
    rw [identityParts_eq, identityParts_eq, h.scope, h.path, h.line, h.text]
  rw [identity, identity, identityText, identityText, hparts]

/-- a finding with another source, another severity and, if it is on a line, another kind of change -/
def relabelled (f : Finding) (source : Source) (severity : Severity) (kind : LineKind) : Finding :=
  match f with
  | .mergeRequest text _ _ => .mergeRequest text source severity
  | .file path text _ _ => .file path text source severity
  | .line path number _ text _ _ => .line path number kind text source severity

theorem saysSame_relabelled (f : Finding) (source : Source) (severity : Severity) (kind : LineKind) :
    (f.relabelled source severity kind).SaysSame f := by
  cases f <;> exact ⟨rfl, rfl, rfl, rfl⟩

/-- **Identities separate findings.** The bytes that are digested are the same for two findings exactly if these are of the
same scope, of the same path, of the same line as it is written and of the same text; source, severity and kind of change
have no part in an identity. -/
theorem identities_separate (f g : Finding) :
    f.identity = f.identityBytes.map shortDigest ∧
    (f.IsSeparable → g.IsSeparable →
      ∃ a b, f.identityBytes = .ok a ∧ g.identityBytes = .ok b ∧ (a = b ↔ f.SaysSame g)) ∧
    (f.SaysSame g → f.identity = g.identity) ∧
    ∀ source severity kind, (f.relabelled source severity kind).identity = f.identity := by
  refine ⟨identity_eq_map_identityBytes f, fun hf hg => ?_, SaysSame.identity_eq, fun source severity kind =>
    (saysSame_relabelled f source severity kind).identity_eq⟩
  refine ⟨_, _, identityBytes_eq hf, identityBytes_eq hg, ?_⟩
  rw [Text.Utf8.encode_injective.eq_iff, ended_front_eq_iff hf hg, front_eq_iff hf hg, plain_toList_inj hf.text hg.text]
  exact ⟨fun ⟨⟨hscope, hpath, hline⟩, htext⟩ => ⟨hscope, hpath, hline, htext⟩,
    fun h => ⟨⟨h.scope, h.path, h.line⟩, h.text⟩⟩

end

/-- a note on a file that reads like one on a line of it -/
def fileNote : Finding := .file (.text "a.py") (.text "7\x1funused") ⟨.text "T", .text "D"⟩ .error

def lineNote : Finding := .line (.text "a.py") (.text "7") .added (.text "unused") ⟨.text "T", .text "D"⟩ .error

def numberNote : Finding := .line (.text "a.py") (.int 7) .removed (.text "unused") ⟨.text "U", .text ""⟩ .warning

theorem identities_separate_notes : letI : Interpreter := .usual
    fileNote.IsSeparable ∧ lineNote.IsSeparable ∧
      (∃ a b, fileNote.identityBytes = .ok a ∧ lineNote.identityBytes = .ok b ∧ a ≠ b) ∧
      lineNote.SaysSame numberNote ∧ lineNote.identity = numberNote.identity := by
  let : Interpreter := .usual
  have hfile : fileNote.IsSeparable := by
    refine ⟨rfl, ?_, nofun⟩
    rintro path ⟨⟩
    exact ⟨rfl, by decide⟩
  have hline : lineNote.IsSeparable := by
    refine ⟨rfl, ?_, ?_⟩
    · rintro path ⟨⟩
      exact ⟨rfl, by decide⟩
    · rintro number ⟨⟩
      exact ⟨written_of_isText rfl, by decide⟩
  have hnumber : written (.int 7) = .ok (.text "7") := written_of_isTextOrInt rfl (by decide +kernel)
  have hsame : lineNote.SaysSame numberNote :=
    ⟨rfl, rfl, congrArg some ((written_of_isText rfl).trans hnumber.symm), rfl⟩
  obtain ⟨a, b, ha, hb, hiff⟩ := (identities_separate fileNote lineNote).2.1 hfile hline
  refine ⟨hfile, hline, ⟨a, b, ha, hb, fun h => ?_⟩, hsame, (identities_separate lineNote numberNote).2.2.1 hsame⟩
  exact absurd (hiff.1 h).scope (by decide)

/-- a path that holds the separator can be taken for a shorter one -/
example [Interpreter] : identityText (.file (.text "a\x1fb") (.text "c") ⟨.text "T", .text "D"⟩ .error) =
    identityText (.file (.text "a") (.text "b\x1fc") ⟨.text "T", .text "D"⟩ .error) := by
  rfl

end ChangeLint.Finding
