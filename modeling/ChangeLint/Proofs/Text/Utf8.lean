/-
The bytes of a text are read back as the text.

`front_utf8EncodeChar` is the step: at the bytes of a character the reader finds this character and takes all of its
bytes. `decodeLossy_encode` and `decode_encode` are the run: no byte of a text is taken for a wrong one.
-/
import ChangeLint.Text.Utf8
import Mathlib.Tactic

namespace ChangeLint.Text.Utf8

variable {k acc width n : Nat} {lo hi : UInt8} {rest : List UInt8}

/-! ## One character -/

theorem toNat_ofNat_of_lt (h : k < 256) : (UInt8.ofNat k).toNat = k := by
  rw [UInt8.toNat_ofNat', Nat.mod_eq_of_lt h]

/-- a continuation byte in its range is taken -/
theorem continued_cons (hk : k < 64) (hlo : lo.toNat ≤ k + 0x80) (hhi : k + 0x80 ≤ hi.toNat) :
    continued (n + 1) lo hi acc width (UInt8.ofNat (k + 0x80) :: rest) =
      continued n 0x80 0xbf (acc * 64 + k) (width + 1) rest := by
  have hbyte : (UInt8.ofNat (k + 0x80)).toNat = k + 0x80 := toNat_ofNat_of_lt (by omega)
  have hin : (lo ≤ UInt8.ofNat (k + 0x80) && UInt8.ofNat (k + 0x80) ≤ hi) = true := by
    simp only [UInt8.le_iff_toNat_le, hbyte, hlo, hhi, decide_true, Bool.and_self]
  rw [continued, if_pos hin, hbyte, Nat.add_sub_cancel]

theorem front_one (h : k < 0x80) : front (UInt8.ofNat k) rest = .char (Char.ofNat k) 1 := by
  have hbyte : (UInt8.ofNat k).toNat = k := toNat_ofNat_of_lt (by omega)
  have hlt : UInt8.ofNat k < 0x80 := by rw [UInt8.lt_iff_toNat_lt, hbyte]; exact h
  rw [front, if_pos hlt, hbyte]

theorem front_two (h : 2 ≤ k) (h' : k < 32) :
    front (UInt8.ofNat (k + 0xc0)) rest = continued 1 0x80 0xbf k 1 rest := by
  interval_cases k <;> rfl

theorem front_three (h : k < 16) :
    front (UInt8.ofNat (k + 0xe0)) rest =
      continued 2 (if k = 0 then 0xa0 else 0x80) (if k = 13 then 0x9f else 0xbf) k 1 rest := by
  interval_cases k <;> rfl

theorem front_four (h : k < 5) :
    front (UInt8.ofNat (k + 0xf0)) rest =
      continued 3 (if k = 0 then 0x90 else 0x80) (if k = 4 then 0x8f else 0xbf) k 1 rest := by
  interval_cases k <;> rfl

/-- **The bytes of a character are read as this character** -/
theorem front_utf8EncodeChar (c : Char) (rest : List UInt8) :
    ∃ b bs, String.utf8EncodeChar c = b :: bs ∧ front b (bs ++ rest) = .char c (bs.length + 1) := by
  have hchar : ∀ m, m = c.val.toNat → Char.ofNat m = c := by
    rintro m rfl
    exact Char.ofNat_toNat c
  have hvalid : c.val.toNat < 0xd800 ∨ 0xdfff < c.val.toNat ∧ c.val.toNat < 0x110000 := c.valid
  simp only [String.utf8EncodeChar]
  generalize c.val.toNat = v at hchar hvalid
  split_ifs with h1 h2 h3
  · exact ⟨_, [], rfl, by rw [List.nil_append, front_one (by omega), hchar _ rfl]; rfl⟩
  · refine ⟨_, _, rfl, ?_⟩
    rw [front_two (by omega) (by omega), List.cons_append, continued_cons (by omega) (by simp) (by simp; omega),
      continued, hchar _ (by omega)]
    rfl
  · -- the bounds of the second byte leave out shorter forms and surrogates
    refine ⟨_, _, rfl, ?_⟩
    rw [front_three (by omega), List.cons_append, continued_cons (by omega) (by split_ifs <;> simp; omega)
      (by split_ifs <;> (simp; omega)), List.cons_append, continued_cons (by omega) (by simp) (by simp; omega),
      continued, hchar _ (by omega)]
    rfl
  · refine ⟨_, _, rfl, ?_⟩
    rw [front_four (by omega), List.cons_append, continued_cons (by omega) (by split_ifs <;> simp; omega)
      (by split_ifs <;> (simp; omega)), List.cons_append, continued_cons (by omega) (by simp) (by simp; omega),
      List.cons_append, continued_cons (by omega) (by simp) (by simp; omega), continued, hchar _ (by omega)]
    rfl

/-! ## A text -/

theorem segments_append (c : Char) (rest : List UInt8) :
    ∃ w, segments (String.utf8EncodeChar c ++ rest) = .char c w :: segments rest := by
  obtain ⟨b, bs, hbytes, hfront⟩ := front_utf8EncodeChar c rest
  refine ⟨bs.length + 1, ?_⟩
  rw [hbytes, List.cons_append, segments, hfront]
  simp only [Nat.add_sub_cancel, List.drop_left]

/-- **Reading undoes writing**, with no replacement character -/
theorem decodeLossy_encode (cs : List Char) : decodeLossy (encode cs) = cs := by
  induction cs with
  | nil => rw [encode, List.flatMap_nil, decodeLossy, segments, List.map_nil]
  | cons c cs ih =>
    obtain ⟨w, hw⟩ := segments_append c (encode cs)
    rw [encode, List.flatMap_cons, decodeLossy, ← encode, hw, List.map_cons, ← decodeLossy, ih]
    rfl

theorem encode_injective : Function.Injective encode := Function.LeftInverse.injective decodeLossy_encode

theorem charsFrom_segments_encode (offset : Nat) (cs : List Char) : charsFrom offset (segments (encode cs)) = .ok cs := by
  induction cs generalizing offset with
  | nil => rw [encode, List.flatMap_nil, segments, charsFrom]
  | cons c cs ih =>
    obtain ⟨w, hw⟩ := segments_append c (encode cs)
    rw [encode, List.flatMap_cons, ← encode, hw, charsFrom, ih]
    rfl

/-- **The bytes of a text are accepted**, as this text -/
theorem decode_encode (cs : List Char) : decode (encode cs) = .ok cs := charsFrom_segments_encode 0 cs

end ChangeLint.Text.Utf8
