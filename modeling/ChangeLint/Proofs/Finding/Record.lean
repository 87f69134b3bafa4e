/-
Findings on the wire: what is sent is what is received.

`ofRecord_record?` reads a record back, whatever its fields hold; `portable_record?` says when JSON keeps it. Together with
the round trips of JSON and UTF-8 they give `decode_encode_eq_filter`: the findings of a payload are those that were put
into it, without those on a merge request, which do not travel.
-/
import ChangeLint.Finding.Record
import ChangeLint.Interpreter.Usual
import ChangeLint.Proofs.Json.RoundTrip
import ChangeLint.Proofs.Text.Utf8

namespace ChangeLint.Finding

/-- the line of a finding that is on one -/
def line? : Finding → Option Datum
  | .line _ number _ _ _ _ => some number
  | _ => none

/-- true of findings whose fields are what a checker writes, and whose line, if it is an integer, is not too long -/
structure IsSendable (f : Finding) : Prop where
  typed : f.IsTyped
  short : ∀ number ∈ f.line?, number.hasLongInt = false

variable {f : Finding} {fs : List Finding} {members : List (String × Datum)} {d : Datum}

/-! ## Records -/

@[simp] theorem severityOf_word (x : Severity) : severityOf (.text x.word) = .ok x := by
  simp [severityOf, Severity.ofWord?_word]

@[simp] theorem kindOf_word (k : LineKind) : kindOf (.text k.word) = .ok k := by
  simp [kindOf, LineKind.ofWord?_word]

/-- **A record is read back**, whatever its fields hold -/
theorem ofRecord_record? (h : f.record? = some members) : ofRecord (.table members) = .ok f := by
  cases f with
  | mergeRequest text source severity => cases h
  | file path text source severity =>
    cases h
    simp [ofRecord, tagged, sourceDatum, member, Datum.member?, Datum.get?, bind, Except.bind]
  | line path number kind text source severity =>
    cases h
    simp [ofRecord, tagged, sourceDatum, member, Datum.member?, Datum.get?, bind, Except.bind]

theorem isMergeRequest_of_record? (h : f.record? = some members) : f.isMergeRequest = false := by
  cases f with
  | mergeRequest text source severity => cases h
  | file path text source severity => rfl
  | line path number kind text source severity => rfl

/-- the findings that have records are those that are not on a merge request -/
theorem ofRecords_records (fs : List Finding) :
    ofRecords ((fs.filterMap record?).map .table) = .ok (fs.filter fun f => !f.isMergeRequest) := by
  induction fs with
  | nil => rfl
  | cons f fs ih =>
    cases h : f.record? with
    | none =>
      have hrequest : f.isMergeRequest = true := by
        cases f with
        | mergeRequest text source severity => rfl
        | file path text source severity => cases h
        | line path number kind text source severity => cases h
      rw [List.filterMap_cons_none h, ih, List.filter_cons_of_neg (by simp [hrequest])]
    | some members =>
      rw [List.filterMap_cons_some h, List.map_cons, ofRecords, ofRecord_record? h, ih,
        List.filter_cons_of_pos (by simp [isMergeRequest_of_record? h])]
      rfl

/-! ## What JSON keeps -/

theorem portable_of_isText (h : d.isText) : Json.Portable d := by
  cases d with
  | text s => trivial
  | _ => simp [Datum.isText] at h

theorem portable_of_isTextOrInt (h : d.isTextOrInt) (hshort : d.hasLongInt = false) : Json.Portable d := by
  cases d with
  | text s => trivial
  | int n => exact hshort
  | _ => simp [Datum.isTextOrInt] at h

theorem portable_sourceDatum {s : Source} (htitle : s.title.isText) (hdescription : s.description.isText) :
    Json.Portable (sourceDatum s) :=
  ⟨by simp, portable_of_isText htitle, portable_of_isText hdescription, trivial⟩

theorem portable_tagged {tag : String} (h : Json.Portable (.table members)) : Json.Portable (.table (tagged tag members)) :=
  ⟨by simp [tagged], trivial, h, trivial⟩

theorem portable_record? (hf : f.IsSendable) (h : f.record? = some members) : Json.Portable (.table members) := by
  obtain ⟨htext, htitle, hdescription, hplace⟩ := hf.typed
  have hsource := portable_sourceDatum htitle hdescription
  cases f with
  | mergeRequest text source severity => cases h
  | file path text source severity =>
    cases h
    exact portable_tagged ⟨by simp, portable_of_isText hplace, portable_of_isText htext, hsource, trivial, trivial⟩
  | line path number kind text source severity =>
    cases h
    have hnumber := portable_of_isTextOrInt hplace.2 (hf.short number rfl)
    exact portable_tagged ⟨by simp, portable_of_isText hplace.1, hnumber, trivial, portable_of_isText htext, hsource,
      trivial, trivial⟩

/-- the records of findings -/
theorem portable_records (h : ∀ f ∈ fs, f.IsSendable) : Json.PortableItems ((fs.filterMap record?).map .table) := by
  induction fs with
  | nil => trivial
  | cons f fs ih =>
    have hrest := ih fun g hg => h g (List.mem_cons_of_mem f hg)
    cases hrecord : f.record? with
    | none => rwa [List.filterMap_cons_none hrecord]
    | some members =>
      rw [List.filterMap_cons_some hrecord]
      exact ⟨portable_record? (h f List.mem_cons_self) hrecord, hrest⟩

/-! ## Payloads -/

theorem depth_of_isText (h : d.isText) : d.depth = 0 := by
  cases d with
  | text s => rfl
  | _ => simp [Datum.isText] at h

theorem depth_of_isTextOrInt (h : d.isTextOrInt) : d.depth = 0 := by
  cases d with
  | text s => rfl
  | int n => rfl
  | _ => simp [Datum.isTextOrInt] at h

/-- the record of a finding is nested three deep: it holds the finding, which holds its source -/
theorem depth_record? (hf : f.IsTyped) (h : f.record? = some members) : (Datum.table members).depth = 3 := by
  obtain ⟨htext, htitle, hdescription, hplace⟩ := hf
  have htext := depth_of_isText htext
  have htitle := depth_of_isText htitle
  have hdescription := depth_of_isText hdescription
  cases f with
  | mergeRequest text source severity => cases h
  | file path text source severity =>
    cases h
    simp only [Finding.text, Finding.source] at htext htitle hdescription
    simp [tagged, sourceDatum, Datum.depth, Datum.membersDepth, htext, htitle, hdescription, depth_of_isText hplace]
  | line path number kind text source severity =>
    cases h
    simp only [Finding.text, Finding.source] at htext htitle hdescription
    simp [tagged, sourceDatum, Datum.depth, Datum.membersDepth, htext, htitle, hdescription, depth_of_isText hplace.1,
      depth_of_isTextOrInt hplace.2]

theorem itemsDepth_records (h : ∀ f ∈ fs, f.IsTyped) : Datum.itemsDepth ((fs.filterMap record?).map .table) ≤ 3 := by
  induction fs with
  | nil => exact Nat.zero_le _
  | cons f fs ih =>
    have hrest := ih fun g hg => h g (List.mem_cons_of_mem f hg)
    cases hrecord : f.record? with
    | none => rwa [List.filterMap_cons_none hrecord]
    | some members =>
      rw [List.filterMap_cons_some hrecord, List.map_cons, Datum.itemsDepth, depth_record? (h f List.mem_cons_self) hrecord]
      exact max_le (Nat.le_refl 3) hrest

theorem depth_records (h : ∀ f ∈ fs, f.IsSendable) :
    (Datum.list ((fs.filterMap record?).map .table)).depth ≤ Interpreter.shallow :=
  Nat.succ_le_succ ((itemsDepth_records fun f hf => (h f hf).typed).trans (by decide))

section

variable [Interpreter]

theorem encode_eq (h : ∀ f ∈ fs, f.IsSendable) : encode fs =
    .ok (Text.Utf8.encode (Json.compact Text.lowStand (.list ((fs.filterMap record?).map .table))).toList) := by
  have htext : encodeText fs = .ok (Json.compact Text.lowStand (.list ((fs.filterMap record?).map .table))) :=
    Json.text_compact (portable_records h) (Interpreter.unwritten_shallow (depth_records h))
  rw [encode, htext]
  rfl

theorem decode_of_encode {bytes : List UInt8} (h : ∀ f ∈ fs, f.IsSendable) (hencode : encode fs = .ok bytes) :
    decode bytes = .ok (fs.filter fun f => !f.isMergeRequest) := by
  have hportable : Json.Portable (.list ((fs.filterMap record?).map .table)) := portable_records h
  have hread := @Json.read_compact _ Text.lowStand hportable
  have hroom := Interpreter.payload_shallow hread (depth_records h)
  cases hencode.symm.trans (encode_eq h)
  simp only [decode, ofText, Text.Utf8.decode_encode, hroom, hread, ofRecords_records]

/-- **What is sent is what is received**: all findings but those on a merge request, in their order -/
theorem decode_encode_eq_filter (h : ∀ f ∈ fs, f.IsSendable) :
    ∃ bytes, encode fs = .ok bytes ∧ decode bytes = .ok (fs.filter fun f => !f.isMergeRequest) :=
  ⟨_, encode_eq h, decode_of_encode h (encode_eq h)⟩

end

def awkwardSource : Source := ⟨.text "\"T\" \\ /", .text ""⟩

/-- on the line with the least number that is not too long; in its texts quotes, a backslash, control characters and
characters of two, three and four bytes -/
def farLine : Finding :=
  .line (.text "a\\b \"c\"/é.py") (.int (1 - 10 ^ 4300)) .removed (.text "\x00\x08\t\n\x0c\r\x1f\x7f\u2028😀\ufeff") awkwardSource
    .warning

/-- a line that is a text, though it looks like a number -/
def textLine : Finding := .line (.text "") (.text "7") .added (.text "null") awkwardSource .error

def wholeFile : Finding := .file (.text "[]") (.text "\x7b\x7d, \\u0041") awkwardSource .error

def onRequest : Finding := .mergeRequest (.text "stays") awkwardSource .error

theorem decode_encode_awkward :
    (∀ f ∈ [farLine, onRequest, wholeFile, textLine], f.IsSendable) ∧
      ∃ bytes, @encode .usual [farLine, onRequest, wholeFile, textLine] = .ok bytes ∧
        @decode .usual bytes = .ok [farLine, wholeFile, textLine] := by
  have hsendable : ∀ f ∈ [farLine, onRequest, wholeFile, textLine], f.IsSendable := by
    simp only [List.forall_mem_cons, List.not_mem_nil, false_implies, implies_true, and_true]
    exact ⟨⟨⟨rfl, rfl, rfl, rfl, rfl⟩, by decide +kernel⟩, ⟨⟨rfl, rfl, rfl, trivial⟩, by decide⟩,
      ⟨⟨rfl, rfl, rfl, rfl⟩, by decide⟩, ⟨⟨rfl, rfl, rfl, rfl, rfl⟩, by decide⟩⟩
  exact ⟨hsendable, @decode_encode_eq_filter _ .usual hsendable⟩

end ChangeLint.Finding
