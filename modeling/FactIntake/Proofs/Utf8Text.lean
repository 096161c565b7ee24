import FactIntake.Encoding.Utf8
import Mathlib.Tactic.SplitIfs

/-!
Text in UTF-8. Each character is written as one of the sequences that the reader takes, so a text that
is written is read as it was.
-/

namespace FactIntake.Encoding.Utf8

theorem isContinuation_iff {b : UInt8} : isContinuation b ↔ 0x80 ≤ b.toNat ∧ b.toNat ≤ 0xBF := by
  simp [isContinuation, UInt8.le_iff_toNat_le]

/-- What the first byte of a sequence asks of the second one. -/
theorem follows_iff {lead second : UInt8} : follows lead second ↔
    0x80 ≤ second.toNat ∧ second.toNat ≤ 0xBF ∧ (lead.toNat = 0xE0 → 0xA0 ≤ second.toNat) ∧
      (lead.toNat = 0xED → second.toNat ≤ 0x9F) ∧ (lead.toNat = 0xF0 → 0x90 ≤ second.toNat) ∧
      (lead.toNat = 0xF4 → second.toNat ≤ 0x8F) := by
  simp only [follows, isContinuation, beq_iff_eq, ← UInt8.toNat_inj, UInt8.le_iff_toNat_le,
    UInt8.reduceToNat]
  repeat' split
  all_goals simp only [Bool.and_eq_true, decide_eq_true_eq]
  all_goals omega

section Sequences

variable {p : Nat} {rest : Bytes} {a b c d : UInt8}

theorem decodeFrom_one (ha : a.toNat < 0x80) :
    decodeFrom p (a :: rest) = (decodeFrom (p + 1) rest).map (Char.ofNat a.toNat :: ·) := by
  have hascii : a < 0x80 := UInt8.lt_iff_toNat_lt.mpr ha
  rw [decodeFrom.eq_def]
  simp only [hascii, if_true]

theorem decodeFrom_two (ha : 0xC2 ≤ a.toNat) (ha' : a.toNat < 0xE0) (hb : isContinuation b) :
    decodeFrom p (a :: b :: rest) = (decodeFrom (p + 2) rest).map
      (Char.ofNat ((a.toNat - 0xC0) * 64 + payload b) :: ·) := by
  have hascii : ¬ a.toNat < 0x80 := by omega
  have hlow : ¬ a.toNat < 0xC2 := by omega
  have hhigh : ¬ 0xF4 < a.toNat := by omega
  rw [decodeFrom.eq_def]
  simp [UInt8.lt_iff_toNat_lt, hascii, hlow, hhigh, ha', hb]

theorem decodeFrom_three (ha : 0xE0 ≤ a.toNat) (ha' : a.toNat < 0xF0) (hb : follows a b)
    (hc : isContinuation c) :
    decodeFrom p (a :: b :: c :: rest) = (decodeFrom (p + 3) rest).map
      (Char.ofNat (((a.toNat - 0xE0) * 64 + payload b) * 64 + payload c) :: ·) := by
  have hascii : ¬ a.toNat < 0x80 := by omega
  have hlow : ¬ a.toNat < 0xC2 := by omega
  have hhigh : ¬ 0xF4 < a.toNat := by omega
  have htwo : ¬ a.toNat < 0xE0 := by omega
  rw [decodeFrom.eq_def]
  simp [UInt8.lt_iff_toNat_lt, hascii, hlow, hhigh, htwo, ha', hb, hc]

theorem decodeFrom_four (ha : 0xF0 ≤ a.toNat) (ha' : a.toNat ≤ 0xF4) (hb : follows a b)
    (hc : isContinuation c) (hd : isContinuation d) :
    decodeFrom p (a :: b :: c :: d :: rest) = (decodeFrom (p + 4) rest).map
      (Char.ofNat ((((a.toNat - 0xF0) * 64 + payload b) * 64 + payload c) * 64 + payload d) :: ·) := by
  have hascii : ¬ a.toNat < 0x80 := by omega
  have hlow : ¬ a.toNat < 0xC2 := by omega
  have hhigh : ¬ 0xF4 < a.toNat := by omega
  have htwo : ¬ a.toNat < 0xE0 := by omega
  have hthree : ¬ a.toNat < 0xF0 := by omega
  rw [decodeFrom.eq_def]
  simp [UInt8.lt_iff_toNat_lt, hascii, hlow, hhigh, htwo, hthree, hb, hc, hd]

end Sequences

theorem toNat_tail (n : Nat) : (UInt8.ofNat (n % 64 + 128)).toNat = n % 64 + 128 := by
  rw [UInt8.toNat_ofNat']
  omega

theorem isContinuation_tail (n : Nat) : isContinuation (UInt8.ofNat (n % 64 + 128)) := by
  rw [isContinuation_iff, toNat_tail]
  omega

theorem payload_tail (n : Nat) : payload (UInt8.ofNat (n % 64 + 128)) = n % 64 := by
  rw [payload, toNat_tail]
  omega

/-- What is written of a character is read as that character. -/
theorem decodeFrom_encodeChar (c : Char) (p : Nat) (rest : Bytes) :
    ∃ next, decodeFrom p (String.utf8EncodeChar c ++ rest) = (decodeFrom next rest).map (c :: ·) := by
  have hvalid : c.toNat < 0xD800 ∨ 0xDFFF < c.toNat ∧ c.toNat < 0x110000 := c.valid
  rw [show c.toNat = c.val.toNat from rfl] at hvalid
  simp only [String.utf8EncodeChar]
  generalize hv : c.val.toNat = v at hvalid
  have hchar {n : Nat} (hn : n = v) : Char.ofNat n = c := by
    rw [hn, ← hv]
    exact Char.ofNat_toNat c
  split_ifs with hone htwo hthree
  · have hlead : (UInt8.ofNat v).toNat = v := by
      rw [UInt8.toNat_ofNat']
      omega
    refine ⟨p + 1, ?_⟩
    rw [List.cons_append, List.nil_append, decodeFrom_one (by omega), hlead, hchar rfl]
  · have hlead : (UInt8.ofNat (v / 64 % 32 + 192)).toNat = v / 64 % 32 + 192 := by
      rw [UInt8.toNat_ofNat']
      omega
    refine ⟨p + 2, ?_⟩
    simp only [List.cons_append, List.nil_append]
    rw [decodeFrom_two (by omega) (by omega) (isContinuation_tail v), hlead, payload_tail, hchar (by omega)]
  · have hlead : (UInt8.ofNat (v / 4096 % 16 + 224)).toNat = v / 4096 % 16 + 224 := by
      rw [UInt8.toNat_ofNat']
      omega
    have hfollows : follows (UInt8.ofNat (v / 4096 % 16 + 224)) (UInt8.ofNat (v / 64 % 64 + 128)) := by
      rw [follows_iff, hlead, toNat_tail]
      omega
    refine ⟨p + 3, ?_⟩
    simp only [List.cons_append, List.nil_append]
    rw [decodeFrom_three (by omega) (by omega) hfollows (isContinuation_tail v), hlead,
      payload_tail, payload_tail, hchar (by omega)]
  · have hlead : (UInt8.ofNat (v / 262144 % 8 + 240)).toNat = v / 262144 % 8 + 240 := by
      rw [UInt8.toNat_ofNat']
      omega
    have hfollows : follows (UInt8.ofNat (v / 262144 % 8 + 240)) (UInt8.ofNat (v / 4096 % 64 + 128)) := by
      rw [follows_iff, hlead, toNat_tail]
      omega
    refine ⟨p + 4, ?_⟩
    simp only [List.cons_append, List.nil_append]
    rw [decodeFrom_four (by omega) (by omega) hfollows (isContinuation_tail _) (isContinuation_tail v),
      hlead, payload_tail, payload_tail, payload_tail, hchar (by omega)]

/-- A text is read as it was written. -/
theorem decode_encode (cs : List Char) : decode (encode cs) = .ok cs := by
  have hfrom (p : Nat) : decodeFrom p (encode cs) = .ok cs := by
    induction cs generalizing p with
    | nil => rfl
    | cons c cs ih =>
      obtain ⟨next, hread⟩ := decodeFrom_encodeChar c p (encode cs)
      rw [encode, List.flatMap_cons]
      exact hread.trans (by rw [ih next]; rfl)
  rw [decode, hfrom]
  rfl

end FactIntake.Encoding.Utf8
