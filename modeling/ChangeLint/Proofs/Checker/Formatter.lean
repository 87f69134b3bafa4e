/-
When the output of a linter can be read.

A match tells a finding when its line reads as an integer and its message is captured. The output of a linter can be read
when every match in it does. Whether a match does may depend on what the linter prints; of a pattern that `isTelling` it is
known beforehand, up to numbers with too many digits.

Results:
- `exists_findings_iff`: reading an output succeeds when all its matches tell a finding, and only then;
- `exists_findings_iff_of_isTelling`: for a telling pattern, when no number in it has too many digits;
- `isTelling_defaultPattern`: the default pattern is telling.
-/
import ChangeLint.Checker.Formatter
import ChangeLint.Proofs.Except
import ChangeLint.Proofs.Pattern.Capture

namespace ChangeLint.Checker.Formatter

/-- a match tells a finding: its line reads as an integer and its message is captured -/
structure Tells (p : Pattern) (m : Pattern.State) : Prop where
  line : ∃ text n, p.named? m "line" = some text ∧ Number.readInt (String.ofList text) = .ok n
  message : ∃ text, p.named? m "message" = some text

/-- true of patterns whose line is always captured and then is digits, and whose message is always captured -/
def isTelling (p : Pattern) : Bool :=
  match p.names.lookup "line", p.names.lookup "message" with
  | some line, some message =>
    p.body.captures line && p.body.captures message &&
      p.body.bodiesPass line (fun flags body => body.takesDigits flags && body.takesSome) p.flags
  | _, _ => false

variable {f : Formatter} {p : Pattern} {m : Pattern.State} {d : FileDiff} {text : String} {output : List String}

/-! ## Outputs that can be read -/

theorem exists_lineNumber_iff {captured : Option (List Char)} :
    (∃ n, lineNumber captured = .ok n) ↔ ∃ text n, captured = some text ∧ Number.readInt (String.ofList text) = .ok n := by
  cases captured with
  | none => simp [lineNumber]
  | some text =>
    rw [lineNumber, exists_mapError_eq_ok]
    exact ⟨fun ⟨n, hn⟩ => ⟨text, n, rfl, hn⟩, fun ⟨_, n, htext, hn⟩ => ⟨n, Option.some.inj htext ▸ hn⟩⟩

theorem exists_message_iff {captured : Option (List Char)} :
    (∃ s, message captured = .ok s) ↔ ∃ text, captured = some text := by
  cases captured with
  | none => simp [message]
  | some text => exact ⟨fun _ => ⟨text, rfl⟩, fun _ => ⟨_, rfl⟩⟩

/-- a line of output can be read when a match in it tells a finding -/
theorem exists_finding?_iff :
    (∃ r, f.finding? d text = .ok r) ↔ ∀ m, f.pattern.search? text.toList = some m → Tells f.pattern m := by
  rw [finding?]
  cases hsearch : f.pattern.search? text.toList with
  | none => simp
  | some m =>
    have hread : (∃ r, (do
        let n ← lineNumber (f.pattern.named? m "line")
        let text ← message (f.pattern.named? m "message")
        pure (some (Finding.line d.newPath (.int n) (d.kindOf n) text source .error))) = Except.ok r) ↔
        Tells f.pattern m := by
      rw [exists_bind_eq_ok]
      constructor
      · rintro ⟨n, hline, r, hrest⟩
        obtain ⟨s, hmessage, -⟩ := bind_eq_ok hrest
        exact ⟨exists_lineNumber_iff.1 ⟨n, hline⟩, exists_message_iff.1 ⟨s, hmessage⟩⟩
      · rintro ⟨hline, hmessage⟩
        obtain ⟨n, hn⟩ := exists_lineNumber_iff.2 hline
        obtain ⟨s, hs⟩ := exists_message_iff.2 hmessage
        refine ⟨n, hn, some (.line d.newPath (.int n) (d.kindOf n) s source .error), ?_⟩
        rw [hs]
        rfl
    exact hread.trans ⟨fun h _ hm => Option.some.inj hm ▸ h, fun h => h m rfl⟩

/-- **An output can be read** when all its matches tell a finding, and only then -/
theorem exists_findings_iff : (∃ fs, f.findings d output = .ok fs) ↔
    ∀ text ∈ output, ∀ m, f.pattern.search? text.toList = some m → Tells f.pattern m := by
  have hmap : (∃ fs, f.findings d output = .ok fs) ↔ ∃ found, output.mapM (f.finding? d) = .ok found := by
    rw [findings, exists_bind_eq_ok]
    exact ⟨fun ⟨found, h, _⟩ => ⟨found, h⟩, fun ⟨found, h⟩ => ⟨found, h, _, rfl⟩⟩
  rw [hmap, exists_mapM_eq_ok]
  exact forall₂_congr fun _ _ => exists_finding?_iff

/-! ## What is read of an output -/

/-- a match is a finding on the line that it names, with the kind that the diff has for it -/
theorem eq_line_of_match {x : Finding} (h : f.finding? d text = .ok (some x)) :
    ∃ n message, Number.isTooLong n = false ∧ x = .line d.newPath (.int n) (d.kindOf n) (.text message) source .error := by
  unfold finding? at h
  split at h
  · cases h
  · obtain ⟨n, hn, h⟩ := bind_eq_ok h
    obtain ⟨message, -, h⟩ := bind_eq_ok h
    cases h
    refine ⟨n, message, ?_, rfl⟩
    unfold lineNumber at hn
    split at hn
    · cases hn
    · exact Number.isTooLong_of_readInt (mapError_eq_ok hn)

/-- every finding is a match in a line of the output -/
theorem exists_match_of_mem {x : Finding} {fs : List Finding} (h : f.findings d output = .ok fs) (hx : x ∈ fs) :
    ∃ text ∈ output, f.finding? d text = .ok (some x) := by
  obtain ⟨found, hfound, h⟩ := bind_eq_ok h
  cases h
  obtain ⟨y, hy, hyx⟩ := List.mem_filterMap.1 hx
  obtain rfl : y = some x := hyx
  obtain ⟨i, hi, hget⟩ := List.mem_iff_getElem.1 hy
  have hall := mapM_eq_ok.1 hfound
  have hi' : i < output.length := hall.length_eq ▸ hi
  have hmatch : f.finding? d output[i] = .ok found[i] := hall.get hi' hi
  exact ⟨output[i], List.getElem_mem hi', hget ▸ hmatch⟩

/-! ## Telling patterns -/

/-- what a telling pattern captures: a line of digits, and a message -/
theorem captured_of_isTelling {text : List Char} (h : isTelling p = true) (hm : p.search? text = some m) :
    (∃ digits, p.named? m "line" = some digits ∧ digits ≠ [] ∧ ∀ c ∈ digits, Text.isDigit c = true) ∧
      ∃ message, p.named? m "message" = some message := by
  rw [isTelling] at h
  split at h
  · next line message hline hmessage =>
    simp only [Bool.and_eq_true] at h
    obtain ⟨⟨hcline, hcmessage⟩, hbodies⟩ := h
    obtain ⟨skipped, rest, u, -, hway⟩ := Pattern.way_of_search? hm
    rw [Pattern.named?, hline, Pattern.named?, hmessage]
    refine ⟨?_, Option.isSome_iff_exists.1 (hway.isSome_captured? hcmessage)⟩
    obtain ⟨digits, hdigits⟩ := Option.isSome_iff_exists.1 (hway.isSome_captured? hcline)
    refine ⟨digits, hdigits, ?_⟩
    refine Pattern.Way.of_captured? (P := fun ds => ds ≠ [] ∧ ∀ c ∈ ds, Text.isDigit c = true) ?_ hway hbodies ?_ digits
      hdigits
    · intro flags body s u r htest hbody
      obtain ⟨hdigit, hsome⟩ := Bool.and_eq_true_iff.1 htest
      exact ⟨hbody.ne_nil_of_takesSome hsome, hbody.isDigit_of_takesDigits hdigit⟩
    -- nothing is captured before a match
    · intro text htext
      cases htext
  · cases h

/-- a match of a telling pattern tells a finding when its line has not too many digits -/
theorem tells_iff_of_isTelling {text : List Char} (h : isTelling p = true) (hm : p.search? text = some m) :
    Tells p m ↔ ∀ digits, p.named? m "line" = some digits → digits.length ≤ Number.digitLimit := by
  obtain ⟨⟨digits, hline, hne, hdigits⟩, hmessage⟩ := captured_of_isTelling h hm
  have hread := Number.exists_readInt_digits_iff hdigits hne
  constructor
  · rintro ⟨⟨text, n, htext, hn⟩, -⟩ ds hds
    rw [hline] at htext hds
    cases htext
    cases hds
    exact hread.1 ⟨n, hn⟩
  · intro hlen
    obtain ⟨n, hn⟩ := hread.2 (hlen digits hline)
    exact ⟨⟨digits, n, hline, hn⟩, hmessage⟩

/-- **An output can be read by a telling pattern** when no line number in it has too many digits, and only then -/
theorem exists_findings_iff_of_isTelling (h : isTelling f.pattern = true) : (∃ fs, f.findings d output = .ok fs) ↔
    ∀ text ∈ output, ∀ m digits, f.pattern.search? text.toList = some m → f.pattern.named? m "line" = some digits →
      digits.length ≤ Number.digitLimit := by
  rw [exists_findings_iff]
  refine forall₂_congr fun text _ => forall_congr' fun m => ?_
  constructor
  · intro htells digits hm
    exact (tells_iff_of_isTelling h hm).1 (htells hm) digits
  · intro hlen hm
    exact (tells_iff_of_isTelling h hm).2 fun digits => hlen digits hm

/-- the default pattern names no characters, and no stack is too small for it -/
theorem read_defaultPattern [Interpreter] :
    Pattern.read defaultPattern.toList = @Pattern.grammar (Pattern.charactersOf []) defaultPattern.toList := by
  have hfew : Interpreter.openings defaultPattern.toList ≤ Interpreter.few := by decide +kernel
  have hnone : Pattern.namesIn defaultPattern.toList = [] := by decide +kernel
  rw [Pattern.read, Interpreter.overrun_few (by decide) hfew, Pattern.charactersIn, hnone]

/-- every interpreter reads the default pattern -/
theorem exists_read_defaultPattern [Interpreter] : ∃ p, Pattern.read defaultPattern.toList = .ok p := by
  have hok : (@Pattern.grammar (Pattern.charactersOf []) defaultPattern.toList).isOk = true := by decide +kernel
  rw [read_defaultPattern]
  cases hread : @Pattern.grammar (Pattern.charactersOf []) defaultPattern.toList with
  | ok p => exact ⟨p, rfl⟩
  | error e =>
    rw [hread] at hok
    cases hok

/-- **The default pattern is telling** -/
theorem isTelling_defaultPattern [Interpreter] : readPattern defaultPattern = .ok p → isTelling p = true := by
  have hread : (@Pattern.grammar (Pattern.charactersOf []) defaultPattern.toList).toOption.all isTelling = true := by
    decide +kernel
  rw [readPattern, read_defaultPattern]
  intro hp
  obtain ⟨q, hq, hp⟩ := bind_eq_ok hp
  cases hgrammar : @Pattern.grammar (Pattern.charactersOf []) defaultPattern.toList with
  | error e =>
    rw [hgrammar] at hq
    cases hq
  | ok r =>
    rw [hgrammar] at hq hread
    cases hq
    split at hp
    · cases hp
      exact hread
    · cases hp

end ChangeLint.Checker.Formatter
