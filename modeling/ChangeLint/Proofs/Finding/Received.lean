/-
What can be done with findings that were received.

A record tells a finding (`Tells`): the fields of the finding are the members of the record, whatever they hold; only its tag,
its severity and its kind of line are checked. So a payload may bring findings whose paths and texts are no texts, or hold half
of a character; these have no identity and cannot be reported.

Results:
- `ofRecord_eq_ok_iff`: a record is read as the finding that it tells;
- `isSendable_of_tells`: what is received and typed can be sent on, for JSON holds no integer that is too long;
- `received_decode`: every payload is refused, or brings what its records tell, and if these are typed, everything that is
  done with findings succeeds (`Usable`);
- `pathless_received`: they need not be typed.
-/
import ChangeLint.Proofs.Finding.Payload
import ChangeLint.Proofs.Report.Rendering

namespace ChangeLint.Finding

/-! ## Records and what they tell -/

/-- a datum is a table with some members -/
def Has (d : Datum) (ms : List (String × Datum)) : Prop := ms.Forall fun m => d.member? m.1 = some (some m.2)

/-- a record tells a finding: its tag is that of the finding, and its members are the fields -/
inductive Tells : Datum → Finding → Prop
  | file {record body source path text title description : Datum} {severity : Severity}
    (hrecord : Has record [("type", .text "file"), ("finding", body)])
    (hbody : Has body [("path", path), ("text", text), ("source", source), ("severity", .text severity.word)])
    (hsource : Has source [("title", title), ("description", description)]) :
    Tells record (.file path text ⟨title, description⟩ severity)
  | line {record body source path number text title description : Datum} {kind : LineKind} {severity : Severity}
    (hrecord : Has record [("type", .text "line"), ("finding", body)])
    (hbody : Has body [("path", path), ("line", number), ("change_kind", .text kind.word), ("text", text),
      ("source", source), ("severity", .text severity.word)])
    (hsource : Has source [("title", title), ("description", description)]) :
    Tells record (.line path number kind text ⟨title, description⟩ severity)

variable {d v : Datum} {k : String} {ms : List (String × Datum)} {records : List Datum} {f : Finding} {fs : List Finding}
  {bytes : List UInt8}

theorem member_eq_ok_iff : member k d = .ok v ↔ d.member? k = some (some v) := by
  unfold member
  split <;> simp_all

/-- the members of a record are those that are read of it -/
theorem has_iff : Has d ms ↔ ms.Forall fun m => member m.1 d = .ok m.2 := by
  simp only [Has, member_eq_ok_iff]

theorem eq_word_of_severityOf {x : Severity} (h : severityOf d = .ok x) : d = .text x.word := by
  unfold severityOf at h
  split at h
  · rename_i s
    cases hword : Severity.ofWord? s with
    | none =>
      rw [hword] at h
      cases h
    | some y =>
      rw [hword] at h
      cases h
      have hfound : x.word = s := by simpa using List.find?_some hword
      rw [hfound]
  · cases h

theorem eq_word_of_kindOf {k : LineKind} (h : kindOf d = .ok k) : d = .text k.word := by
  unfold kindOf at h
  split at h
  · rename_i s
    cases hword : LineKind.ofWord? s with
    | none =>
      rw [hword] at h
      cases h
    | some y =>
      rw [hword] at h
      cases h
      have hfound : k.word = s := by simpa using List.find?_some hword
      rw [hfound]
  · cases h

theorem tells_of_ofRecord (h : ofRecord d = .ok f) : Tells d f := by
  unfold ofRecord at h
  obtain ⟨tag, htag, h⟩ := bind_eq_ok h
  obtain ⟨body, hbody, h⟩ := bind_eq_ok h
  obtain ⟨title, htitle, h⟩ := bind_eq_ok h
  obtain ⟨description, hdescription, h⟩ := bind_eq_ok h
  obtain ⟨severity, hseverity, h⟩ := bind_eq_ok h
  obtain ⟨source, hsource, htitle⟩ := bind_eq_ok htitle
  obtain ⟨source', hsource', hdescription⟩ := bind_eq_ok hdescription
  obtain rfl : source = source' := Except.ok.inj (hsource.symm.trans hsource')
  obtain ⟨word, hword, hseverity⟩ := bind_eq_ok hseverity
  obtain rfl := eq_word_of_severityOf hseverity
  have hsourced : Has source [("title", title), ("description", description)] :=
    has_iff.2 ⟨htitle, hdescription⟩
  split at h
  · obtain ⟨path, hpath, h⟩ := bind_eq_ok h
    obtain ⟨number, hnumber, h⟩ := bind_eq_ok h
    obtain ⟨kind, hkind, h⟩ := bind_eq_ok h
    obtain ⟨text, htext, h⟩ := bind_eq_ok h
    obtain ⟨kindWord, hkindWord, hkind⟩ := bind_eq_ok hkind
    obtain rfl := eq_word_of_kindOf hkind
    cases h
    exact .line (has_iff.2 ⟨htag, hbody⟩)
      (has_iff.2 ⟨hpath, hnumber, hkindWord, htext, hsource, hword⟩) hsourced
  · obtain ⟨path, hpath, h⟩ := bind_eq_ok h
    obtain ⟨text, htext, h⟩ := bind_eq_ok h
    cases h
    exact .file (has_iff.2 ⟨htag, hbody⟩) (has_iff.2 ⟨hpath, htext, hsource, hword⟩) hsourced
  · cases h

/-- **A record is read as the finding that it tells** -/
theorem ofRecord_eq_ok_iff : ofRecord d = .ok f ↔ Tells d f := by
  refine ⟨tells_of_ofRecord, fun h => ?_⟩
  cases h with
  | file hrecord hbody hsource =>
    have hrecord := has_iff.1 hrecord
    have hbody := has_iff.1 hbody
    have hsource := has_iff.1 hsource
    simp only [List.Forall] at hrecord hbody hsource
    simp [ofRecord, hrecord, hbody, hsource]
  | line hrecord hbody hsource =>
    have hrecord := has_iff.1 hrecord
    have hbody := has_iff.1 hbody
    have hsource := has_iff.1 hsource
    simp only [List.Forall] at hrecord hbody hsource
    simp [ofRecord, hrecord, hbody, hsource]

/-- records are read as the findings that they tell, one for each -/
theorem ofRecords_eq_ok_iff : ofRecords records = .ok fs ↔ List.Forall₂ Tells records fs := by
  induction records generalizing fs with
  | nil =>
    rw [List.forall₂_nil_left_iff, ofRecords, Except.ok.injEq]
    exact eq_comm
  | cons d records ih =>
    rw [List.forall₂_cons_left_iff, ofRecords]
    cases hd : ofRecord d with
    | error e =>
      constructor
      · intro h
        cases h
      · rintro ⟨f, fs', hf, -, -⟩
        rw [← ofRecord_eq_ok_iff, hd] at hf
        cases hf
    | ok f =>
      constructor
      · intro h
        obtain ⟨fs', hfs, rfl⟩ := map_eq_ok h
        exact ⟨f, fs', ofRecord_eq_ok_iff.1 hd, ih.1 hfs, rfl⟩
      · rintro ⟨g, fs', hg, hfs, rfl⟩
        rw [← ofRecord_eq_ok_iff, hd] at hg
        cases hg
        simp only [ih.2 hfs, Except.map]

/-! ## What is received -/

theorem hasLongInt_of_has (h : Has d ms) (hd : d.hasLongInt = false) (hv : (k, v) ∈ ms) : v.hasLongInt = false := by
  have hmember := List.forall_iff_forall_mem.1 h _ hv
  unfold Datum.member? at hmember
  split at hmember
  · exact Json.memberLong_eq_false_iff.1 hd _ (Datum.mem_of_get? (Option.some.inj hmember))
  · exact Json.brokenLong_eq_false_iff.1 hd _ (Datum.mem_of_get? (Option.some.inj hmember))
  · cases hmember

/-- the line of a finding is no longer than all that its record holds -/
theorem hasLongInt_of_tells (h : Tells d f) (hd : d.hasLongInt = false) : ∀ number ∈ f.line?, number.hasLongInt = false := by
  intro number hnumber
  cases h with
  | file => cases hnumber
  | line hrecord hbody hsource =>
    cases hnumber
    have hfinding := hasLongInt_of_has (k := "finding") (v := _) hrecord hd (List.mem_cons_of_mem _ List.mem_cons_self)
    exact hasLongInt_of_has (k := "line") hbody hfinding (by simp)

theorem isMergeRequest_of_tells (h : Tells d f) : f.isMergeRequest = false := by
  cases h with
  | file => rfl
  | line => rfl

/-- **What is received and typed can be sent on** -/
theorem isSendable_of_tells (hread : (Datum.list records).hasLongInt = false) (h : List.Forall₂ Tells records fs)
    (hf : f ∈ fs) (htyped : f.IsTyped) : f.IsSendable := by
  obtain ⟨d, hd, htells⟩ := exists_mem_of_forall₂ h hf
  exact ⟨htyped, hasLongInt_of_tells htells (Json.anyLong_eq_false_iff.1 hread d hd)⟩

section

variable [Interpreter]

/-- everything that is done with findings succeeds: they have identities and places, they are reported (as a table, if the
terminal accepts their titles), and they are sent on -/
structure Usable (fs : List Finding) : Prop where
  identity : ∀ f ∈ fs, ∃ id, f.identity = .ok id
  location : ∀ f ∈ fs, f.location = .ok (.text f.locationText)
  printed : ∀ (t : Terminal) format, t.Lawful →
    ((∃ s, Report.printed format t fs = .ok s) ↔ format = .rich → ∀ f ∈ fs, t.Accepts f.source.title.plain)
  sent : ∃ bytes, encode fs = .ok bytes ∧ decode bytes = .ok fs

theorem usable_of_isSendable (h : ∀ f ∈ fs, f.IsSendable) (hrequest : ∀ f ∈ fs, f.isMergeRequest = false) : Usable fs := by
  refine ⟨fun f hf => exists_identity (h f hf), fun f hf => location_eq (h f hf),
    fun t format ht => Report.exists_printed_iff ht format h, ?_⟩
  refine ⟨_, encode_eq h, ?_⟩
  rw [decode_of_encode h (encode_eq h), List.filter_eq_self.2 fun f hf => by simp [hrequest f hf]]

/-- the ends of receiving a payload: its text is a list of records, and brings the findings that these tell; or it is not, and
the payload is refused as undecodable; or an integer in it is too long, or it is nested too deep -/
inductive Received (bytes : List UInt8) : Except Failure (List Finding) → Prop
  | found {cs : List Char} {records : List Datum} {fs : List Finding} (hcs : Text.Utf8.decode bytes = .ok cs)
    (hroom : Interpreter.overrun? .payload cs = none) (hread : Json.read cs = .ok (.list records))
    (htells : List.Forall₂ Tells records fs)
    (hidentity : ∀ f ∈ fs, (∃ id, f.identity = .ok id) ↔
      (∀ path ∈ f.path?, path.isText) ∧ f.text.isText ∧ ∀ number ∈ f.line?, ∃ s, written number = .ok (.text s))
    (husable : (∀ f ∈ fs, f.IsTyped) → Usable fs) : Received bytes (.ok fs)
  | undecodable (hno : ¬ ∃ cs records fs, Text.Utf8.decode bytes = .ok cs ∧ Json.read cs = .ok (.list records) ∧
      List.Forall₂ Tells records fs) (reason : String) (size : Option Nat) :
    Received bytes (.error (.fault (.undecodable reason size)))
  | tooLong {cs ds : List Char} (hcs : Text.Utf8.decode bytes = .ok cs) (hds : ds <:+: cs) (hlong : Json.LongRun ds) :
    Received bytes (.error (.tooLong (.reading ds.length)))
  | exhausted {cs : List Char} {m : String} (hcs : Text.Utf8.decode bytes = .ok cs)
    (hroom : Interpreter.overrun? .payload cs = some m) : Received bytes (.error (.exhausted m))

/-- a payload whose text is a list of records is decoded to what they tell if the stack is large enough, and no other -/
theorem decode_eq_ok_iff : decode bytes = .ok fs ↔
    ∃ cs records, Text.Utf8.decode bytes = .ok cs ∧ Interpreter.overrun? .payload cs = none ∧
      Json.read cs = .ok (.list records) ∧ List.Forall₂ Tells records fs := by
  constructor
  · intro h
    unfold decode at h
    split at h
    · cases h
    rename_i cs hcs
    unfold ofText at h
    split at h
    · cases h
    rename_i hroom
    split at h
    · cases h
    · cases h
    · rename_i records hread
      exact ⟨cs, records, hcs, hroom, hread, ofRecords_eq_ok_iff.1 h⟩
    · cases h
  · rintro ⟨cs, records, hcs, hroom, hread, htells⟩
    simp only [decode, ofText, hcs, hroom, hread, ofRecords_eq_ok_iff.2 htells]

/-- what is refused as undecodable has room enough, so it is no list of records -/
theorem not_told_of_undecodable {reason : String} {size : Option Nat}
    (h : decode bytes = .error (.fault (.undecodable reason size))) : ¬ ∃ cs records fs, Text.Utf8.decode bytes = .ok cs ∧
      Json.read cs = .ok (.list records) ∧ List.Forall₂ Tells records fs := by
  rintro ⟨cs, records, fs, hcs, hread, htells⟩
  cases hroom : Interpreter.overrun? .payload cs with
  | none =>
    rw [decode_eq_ok_iff.2 ⟨cs, records, hcs, hroom, hread, htells⟩] at h
    cases h
  | some m =>
    simp only [decode, ofText, hcs, hroom] at h
    cases h

/-- **Every payload is refused, or brings what its records tell.** If that is typed, all that is done with it succeeds. -/
theorem received_decode (bytes : List UInt8) : Received bytes (decode bytes) := by
  have hdecodes := decodes_decode bytes
  cases hdecode : decode bytes with
  | ok fs =>
    obtain ⟨cs, records, hcs, hroom, hread, htells⟩ := decode_eq_ok_iff.1 hdecode
    refine .found hcs hroom hread htells (fun f _ => exists_identity_iff) fun htyped => ?_
    refine usable_of_isSendable (fun f hf => ?_) fun f hf => ?_
    · exact isSendable_of_tells (Json.hasLongInt_of_read hread) htells hf (htyped f hf)
    · obtain ⟨i, hi, rfl⟩ := List.mem_iff_getElem.1 hf
      exact isMergeRequest_of_tells (htells.get (htells.length_eq ▸ hi) hi)
  | error e =>
    rw [hdecode] at hdecodes
    cases hdecodes with
    | undecodable reason size => exact .undecodable (not_told_of_undecodable hdecode) reason size
    | tooLong hcs hds hlong => exact .tooLong hcs hds hlong
    | exhausted hcs hroom => exact .exhausted hcs hroom

end

/-- a finding on a file whose path is null -/
def pathless : Finding := .file .null (.text "t") ⟨.text "T", .text "D"⟩ .error

/-- the payload that brings it -/
def pathlessText : String := "[\x7b\"type\": \"file\", \"finding\": \x7b\"path\": null, \"text\": \"t\", " ++
  "\"source\": \x7b\"title\": \"T\", \"description\": \"D\"\x7d, \"severity\": \"error\"\x7d\x7d]"

/-- **What is received need not be typed**: a payload brings a finding without a path, which has no identity, and of which
there are no annotations, no records and no table -/
theorem pathless_received : letI : Interpreter := .usual
    decode (Text.Utf8.encode pathlessText.toList) = .ok [pathless] ∧ ¬ pathless.IsTyped ∧
      (∀ id, pathless.identity ≠ .ok id) ∧ ∀ format t s, Report.printed format t [pathless] ≠ .ok s := by
  let : Interpreter := .usual
  refine ⟨?decoded, ?untyped, ?unnamed, ?unprinted⟩
  case decoded =>
    have hwritten : Json.compact Text.lowStand (.list (([pathless].filterMap record?).map .table)) = pathlessText := by
      decide +kernel
    have hportable : Json.Portable (.list (([pathless].filterMap record?).map .table)) := by
      simp [pathless, record?, tagged, sourceDatum, Json.Portable, Json.PortableItems, Json.PortableMembers]
    have hread := @Json.read_compact _ Text.lowStand hportable
    rw [hwritten] at hread
    exact decode_eq_ok_iff.2 ⟨_, _, Text.Utf8.decode_encode _, Interpreter.overrun_few (by decide) (by decide +kernel), hread,
      ofRecords_eq_ok_iff.1 (ofRecords_records _)⟩
  case untyped =>
    intro htyped
    have hpath : Datum.null.isText = true := htyped.2.2.2
    cases hpath
  case unnamed =>
    intro id h
    exact absurd ((exists_identity_iff.1 ⟨id, h⟩).1 .null rfl) (by decide)
  case unprinted =>
    intro format t s h
    cases format with
    | rich => cases h
    | json => cases h
    | github => cases h

end ChangeLint.Finding
