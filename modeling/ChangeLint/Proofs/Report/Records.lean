/-
The report for programs, read back.

It is written otherwise than a payload: over several lines, with findings on a merge request in it, and with an identity in
each record. None of this matters to the reader of payloads, as long as no finding is on a merge request: the members that
it looks for are the same, and it does not ask for others (`tells_identified`).

`Represents`: an object of the report tells its finding, also one that does not travel, and carries its identity.

Results:
- `records_read`: the report of findings is a list with one object for each of them, in their order;
- the same theorem: it is received as these findings if and only if none is on a merge request, as their payload is.
-/
import ChangeLint.Proofs.Finding.Received

namespace ChangeLint.Report

open ChangeLint.Finding (Has Tells IsSendable sourceDatum tagged)

/-- an object tells a finding on a merge request; its tag is one that payloads do not have -/
def TellsRequest (d : Datum) (text title description : Datum) (severity : Severity) : Prop :=
  ∃ body source, Has d [("type", .text "merge_request"), ("finding", body)] ∧
    Has body [("text", text), ("source", source), ("severity", .text severity.word)] ∧
    Has source [("title", title), ("description", description)]

/-- an object of the report stands for a finding: it tells the finding, and its id is the finding's identity -/
structure Represents [Interpreter] (d : Datum) (f : Finding) : Prop where
  told : match f with
    | .mergeRequest text source severity => TellsRequest d text source.title source.description severity
    | f => Tells d f
  identity : ∃ id, f.identity = .ok id ∧ Has d [("id", .text id)]

variable {f : Finding} {fs : List Finding} {d : Datum} {ds : List Datum} {members : List (String × Datum)} {id : String}

/-! ## One object -/

/-- a table has its own members -/
theorem has_self {ms : List (String × Datum)} (h : Datum.Keyed ms) : Has (.table ms) ms :=
  List.forall_iff_forall_mem.2 fun _ hm => congrArg some (Datum.get?_of_mem h hm)

theorem has_sourceDatum (s : Source) : Has (sourceDatum s) [("title", s.title), ("description", s.description)] :=
  has_self (by simp [Datum.Keyed])

/-- a record has its tag and its finding, also with an identity behind them -/
theorem has_tagged (tag : String) (fields : List (String × Datum)) (id : String) :
    Has (.table (tagged tag fields ++ [("id", .text id)])) [("type", .text tag), ("finding", .table fields)] := by
  simp [Has, tagged, Datum.member?, Datum.get?]

/-- the identity behind a record does not change what it tells -/
theorem tells_identified (h : f.isMergeRequest = false) : Tells (.table (record f ++ [("id", .text id)])) f := by
  cases f with
  | mergeRequest text source severity => cases h
  | file path text source severity =>
    exact .file (has_tagged "file" _ id) (has_self (by simp [Datum.Keyed])) (has_sourceDatum source)
  | line path number kind text source severity =>
    exact .line (has_tagged "line" _ id) (has_self (by simp [Datum.Keyed])) (has_sourceDatum source)

section

variable [Interpreter]

theorem represents_identified (h : f.identity = .ok id) : Represents (.table (record f ++ [("id", .text id)])) f where
  told := by
    cases f with
    | mergeRequest text source severity =>
      exact ⟨_, _, has_tagged "merge_request" _ id, has_self (by simp [Datum.Keyed]), has_sourceDatum source⟩
    | file path text source severity => exact tells_identified rfl
    | line path number kind text source severity => exact tells_identified rfl
  identity := by
    obtain ⟨tag, fields, hrecord⟩ := exists_record_eq f
    exact ⟨id, h, by simp [Has, hrecord, tagged, Datum.member?, Datum.get?]⟩

/-! ## The report -/

/-- **The report is transport output.** Findings that checkers write have a report, and it is a list of objects, one for each
finding and in their order, with the finding's identity as its id. The report is received as the findings if and only if none
of them is on a merge request, and then it is received as their payload is. -/
theorem records_read (fs : List Finding) (h : ∀ f ∈ fs, f.IsSendable) :
    ∃ report, text .json fs = .ok report ∧
      (∃ ds, Json.read report.toList = .ok (.list ds) ∧ List.Forall₂ Represents ds fs) ∧
      (Finding.decode (Text.Utf8.encode report.toList) = .ok fs ↔ ∀ f ∈ fs, f.isMergeRequest = false) ∧
      ((∀ f ∈ fs, f.isMergeRequest = false) → ∃ bytes, Finding.encode fs = .ok bytes ∧ Finding.decode bytes = .ok fs) := by
  obtain ⟨ds, -, hforms, hreport, hportable, hdepth⟩ := exists_identified h
  have hread : Json.read (Json.indented Text.lowStand (.list ds)).toList = .ok (.list ds) := Json.read_indented hportable
  have hrepresents : List.Forall₂ Represents ds fs :=
    hforms.imp fun d f ⟨id, hid, hd⟩ => hd ▸ represents_identified hid
  refine ⟨_, hreport, ⟨ds, hread, hrepresents⟩, ⟨fun hdecode f hf => ?_, fun hnone => ?_⟩, fun hnone => ?_⟩
  · obtain ⟨-, records, -, -, -, htold⟩ := Finding.decode_eq_ok_iff.1 hdecode
    obtain ⟨record, -, hrecord⟩ := exists_mem_of_forall₂ htold hf
    exact Finding.isMergeRequest_of_tells hrecord
  · have htells : List.Forall₂ Tells ds fs := by
      refine List.forall₂_iff_get.2 ⟨hforms.length_eq, fun i hi hi' => ?_⟩
      obtain ⟨id, -, hd⟩ := hforms.get hi hi'
      rw [hd]
      exact tells_identified (hnone _ (List.get_mem fs ⟨i, hi'⟩))
    exact Finding.decode_eq_ok_iff.2 ⟨_, ds, Text.Utf8.decode_encode _, Interpreter.payload_shallow hread hdepth, hread, htells⟩
  · exact (Finding.usable_of_isSendable h hnone).sent

end

/-- with and without a finding on a merge request; the others have awkward texts and the least line that is not too long -/
theorem records_read_awkward : letI : Interpreter := .usual
    (∀ f ∈ [Finding.onRequest, Finding.farLine, Finding.wholeFile], f.IsSendable) ∧
      (∃ report, text .json [Finding.farLine, Finding.wholeFile] = .ok report ∧
        Finding.decode (Text.Utf8.encode report.toList) = .ok [Finding.farLine, Finding.wholeFile]) ∧
      ∃ report ds, text .json [Finding.onRequest, Finding.farLine, Finding.wholeFile] = .ok report ∧
        Json.read report.toList = .ok (.list ds) ∧
        List.Forall₂ Represents ds [Finding.onRequest, Finding.farLine, Finding.wholeFile] ∧
        Finding.decode (Text.Utf8.encode report.toList) ≠ .ok [Finding.onRequest, Finding.farLine, Finding.wholeFile] := by
  let : Interpreter := .usual
  have hsendable : ∀ f ∈ [Finding.onRequest, Finding.farLine, Finding.wholeFile], f.IsSendable := by
    simp only [List.forall_mem_cons, List.not_mem_nil, false_implies, implies_true, and_true]
    exact ⟨⟨⟨rfl, rfl, rfl, trivial⟩, by decide⟩, ⟨⟨rfl, rfl, rfl, rfl, rfl⟩, by decide +kernel⟩,
      ⟨⟨rfl, rfl, rfl, rfl⟩, by decide⟩⟩
  refine ⟨hsendable, ?_, ?_⟩
  · obtain ⟨report, hreport, -, hreceived, -⟩ :=
      records_read [Finding.farLine, Finding.wholeFile] fun f hf => hsendable f (List.mem_cons_of_mem _ hf)
    exact ⟨report, hreport, hreceived.2 (by decide)⟩
  · obtain ⟨report, hreport, ⟨ds, hread, hrepresents⟩, hreceived, -⟩ := records_read _ hsendable
    exact ⟨report, ds, hreport, hread, hrepresents, fun h => absurd (hreceived.1 h _ List.mem_cons_self) (by decide)⟩

end ChangeLint.Report
