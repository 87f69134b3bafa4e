/-
What becomes of a payload, whatever its bytes.

A payload is decoded to findings, or it is refused as undecodable, or the reader of integers fails on it, or it is nested
too deep for the stack (`Decodes`). The last two are not reported as faults of the payload. The first of them happens only
if the text of the payload holds more decimal digits in a row than an integer may have.

Results:
- `decodes_decode`: every payload ends in one of these ways;
- `decode_longRun`: the reader of integers fails on a payload that is nothing but such a run.
-/
import ChangeLint.Finding.Record
import ChangeLint.Proofs.Json.Refusal
import ChangeLint.Proofs.Text.Utf8

namespace ChangeLint.Finding

/-- records are findings, or one of them is refused as undecodable -/
theorem ofRecords_cases (records : List Datum) :
    (∃ fs, ofRecords records = .ok fs) ∨ ∃ reason, ofRecords records = .error (.fault (.undecodable reason none)) := by
  induction records with
  | nil => exact Or.inl ⟨[], rfl⟩
  | cons d records ih =>
    rw [ofRecords]
    cases ofRecord d with
    | error e => exact Or.inr ⟨e.reason, rfl⟩
    | ok f =>
      rcases ih with ⟨fs, hfs⟩ | ⟨reason, hreason⟩
      · exact Or.inl ⟨f :: fs, by rw [hfs]; rfl⟩
      · exact Or.inr ⟨reason, by rw [hreason]; rfl⟩

variable [Interpreter]

/-- the ends of decoding a payload -/
inductive Decodes (bytes : List UInt8) : Except Failure (List Finding) → Prop
  | found (fs : List Finding) : Decodes bytes (.ok fs)
  | undecodable (reason : String) (size : Option Nat) : Decodes bytes (.error (.fault (.undecodable reason size)))
  | tooLong {cs ds : List Char} (hcs : Text.Utf8.decode bytes = .ok cs) (hds : ds <:+: cs) (hlong : Json.LongRun ds) :
    Decodes bytes (.error (.tooLong (.reading ds.length)))
  | exhausted {cs : List Char} {m : String} (hcs : Text.Utf8.decode bytes = .ok cs)
    (h : Interpreter.overrun? .payload cs = some m) : Decodes bytes (.error (.exhausted m))

variable {bytes : List UInt8} {ds : List Char}

/-- **A payload is decoded, or refused as undecodable, or holds too many digits in a row, or is nested too deep** -/
theorem decodes_decode (bytes : List UInt8) : Decodes bytes (decode bytes) := by
  unfold decode
  cases hcs : Text.Utf8.decode bytes with
  | error e => exact .undecodable _ _
  | ok cs =>
    dsimp only [ofText]
    cases hdeep : Interpreter.overrun? .payload cs with
    | some m => exact .exhausted hcs hdeep
    | none =>
      dsimp only
      cases hread : Json.read cs with
      | error e =>
        obtain ⟨problem, rest⟩ := e
        cases problem with
        | tooLong t =>
          obtain ⟨ds, hds, hlong, rfl⟩ := Json.holdsRun_of_read hread
          exact .tooLong hcs hds hlong
        | _ => exact .undecodable _ _
      | ok d =>
        cases d with
        | list records =>
          dsimp only
          rcases ofRecords_cases records with ⟨fs, hfs⟩ | ⟨reason, hreason⟩
          · exact hfs ▸ .found fs
          · exact hreason ▸ .undecodable reason none
        | _ => exact .undecodable _ _

/-- too many digits alone are not refused as undecodable -/
theorem decode_longRun (h : Json.LongRun ds) (hhead : ds.head? ≠ some '0') :
    decode (Text.Utf8.encode ds) = .error (.tooLong (.reading ds.length)) := by
  have hfew : Interpreter.openings ds ≤ Interpreter.few := by
    refine (List.countP_eq_zero.2 fun c hc => ?_).trans_le (Nat.zero_le _)
    have hne : ∀ x, ¬ ('0' ≤ x ∧ x ≤ '9') → c ≠ x := fun x hx he => hx (he ▸ h.digits c hc)
    simp [hne '(' (by decide), hne '[' (by decide), hne '\x7b' (by decide)]
  have hroom : Interpreter.overrun? .payload ds = none := Interpreter.overrun_few (by decide) hfew
  simp only [decode, ofText, Text.Utf8.decode_encode, hroom, Json.read_of_longRun h hhead]

end ChangeLint.Finding
