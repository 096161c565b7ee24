import FactIntake.Proofs.Results
import FactIntake.Proofs.Utf8Text

/-!
Which bytes are text in UTF-8. The bits of a sequence of bytes spell a number; the sequence stands for a
character if it is the shortest one for that number and the number is that of a character. Bytes are
well-formed if they are made of such sequences, and these are exactly the bytes that are written of some
text, and exactly those that are read.
-/

namespace FactIntake.Encoding.Utf8

/-- A byte after the first one of a sequence. -/
def Tail (b : UInt8) : Prop := 0x80 ≤ b.toNat ∧ b.toNat < 0xC0

/-- The six bits that a byte after the first one adds to a number. -/
def tailBits (b : UInt8) : Nat := b.toNat - 0x80

/-- A sequence of bytes spells a number: the mark of the first byte tells how many there are. -/
inductive Spells : Bytes → Nat → Prop
  | one {a : UInt8} (ha : a.toNat < 0x80) : Spells [a] a.toNat
  | two {a b : UInt8} (ha : 0xC0 ≤ a.toNat ∧ a.toNat < 0xE0) (hb : Tail b) :
      Spells [a, b] ((a.toNat - 0xC0) * 64 + tailBits b)
  | three {a b c : UInt8} (ha : 0xE0 ≤ a.toNat ∧ a.toNat < 0xF0) (hb : Tail b) (hc : Tail c) :
      Spells [a, b, c] (((a.toNat - 0xE0) * 64 + tailBits b) * 64 + tailBits c)
  | four {a b c d : UInt8} (ha : 0xF0 ≤ a.toNat ∧ a.toNat < 0xF8) (hb : Tail b) (hc : Tail c)
      (hd : Tail d) :
      Spells [a, b, c, d] ((((a.toNat - 0xF0) * 64 + tailBits b) * 64 + tailBits c) * 64 + tailBits d)

/-- The least number that no sequence of fewer bytes can spell. -/
def leastOf : Bytes → Nat
  | [] | [_] => 0
  | [_, _] => 0x80
  | [_, _, _] => 0x800
  | _ => 0x10000

/-- Sequences one after the other, none of them cut off, each the shortest one for its number, and each
number that of a character: no surrogate, and not above U+10FFFF. -/
inductive WellFormed : Bytes → Prop
  | nil : WellFormed []
  | append {sequence rest : Bytes} {number : Nat} (hspells : Spells sequence number)
      (hshortest : leastOf sequence ≤ number)
      (hcharacter : number < 0xD800 ∨ 0xDFFF < number ∧ number ≤ 0x10FFFF) (hrest : WellFormed rest) :
      WellFormed (sequence ++ rest)

/-- A byte is told by its number. -/
theorem eq_ofNat {b : UInt8} {n : Nat} (h : b.toNat = n) : b = UInt8.ofNat n := by
  rw [← h, UInt8.ofNat_toNat]

/-- The shortest sequence for the number of a character is what is written of that character. -/
theorem encodeChar_of_spells {sequence : Bytes} {number : Nat} {c : Char}
    (hspells : Spells sequence number) (hshortest : leastOf sequence ≤ number)
    (hcharacter : c.val.toNat = number) : sequence = String.utf8EncodeChar c := by
  simp only [String.utf8EncodeChar, hcharacter]
  clear hcharacter
  cases hspells with
  | one ha =>
    rw [if_pos (by omega)]
    exact congrArg (fun a => [a]) (eq_ofNat rfl)
  | two ha hb =>
    replace hshortest : 0x80 ≤ _ := hshortest
    unfold Tail at hb
    unfold tailBits at hshortest ⊢
    rw [if_neg (by omega), if_pos (by omega)]
    refine List.cons_eq_cons.mpr ⟨eq_ofNat ?_, List.cons_eq_cons.mpr ⟨eq_ofNat ?_, rfl⟩⟩
    all_goals omega
  | three ha hb hc =>
    replace hshortest : 0x800 ≤ _ := hshortest
    unfold Tail at hb hc
    unfold tailBits at hshortest ⊢
    rw [if_neg (by omega), if_neg (by omega), if_pos (by omega)]
    refine List.cons_eq_cons.mpr ⟨eq_ofNat ?_, List.cons_eq_cons.mpr ⟨eq_ofNat ?_,
      List.cons_eq_cons.mpr ⟨eq_ofNat ?_, rfl⟩⟩⟩
    all_goals omega
  | four ha hb hc hd =>
    replace hshortest : 0x10000 ≤ _ := hshortest
    unfold Tail at hb hc hd
    unfold tailBits at hshortest ⊢
    rw [if_neg (by omega), if_neg (by omega), if_neg (by omega)]
    refine List.cons_eq_cons.mpr ⟨eq_ofNat ?_, List.cons_eq_cons.mpr ⟨eq_ofNat ?_,
      List.cons_eq_cons.mpr ⟨eq_ofNat ?_, List.cons_eq_cons.mpr ⟨eq_ofNat ?_, rfl⟩⟩⟩⟩
    all_goals omega

/-- Well-formed bytes are what is written of some text. -/
theorem WellFormed.exists_encode {bytes : Bytes} (h : WellFormed bytes) : ∃ cs, bytes = encode cs := by
  induction h with
  | nil => exact ⟨[], rfl⟩
  | @append sequence rest number hspells hshortest hcharacter _ ih =>
    obtain ⟨cs, rfl⟩ := ih
    have hvalid : number.isValidChar := by
      unfold Nat.isValidChar
      omega
    -- The number is that of a character, and the character has no other number.
    obtain ⟨c, hnumber⟩ : ∃ c : Char, c.val.toNat = number := by
      exact ⟨Char.ofNatAux number hvalid, rfl⟩
    refine ⟨c :: cs, ?_⟩
    rw [encodeChar_of_spells hspells hshortest hnumber]
    rfl

theorem tail_iff {b : UInt8} : Tail b ↔ isContinuation b := by
  rw [isContinuation_iff]
  unfold Tail
  omega

theorem tail_of_follows {lead second : UInt8} (h : follows lead second) : Tail second := by
  rw [follows_iff] at h
  unfold Tail
  omega

section Sequences

variable {a b c d : UInt8} {rest : Bytes}

theorem wellFormed_one (ha : a.toNat < 0x80) (h : WellFormed rest) : WellFormed (a :: rest) := by
  change WellFormed ([a] ++ rest)
  exact .append (.one ha) (Nat.zero_le _) (by omega) h

theorem wellFormed_two (ha : 0xC2 ≤ a.toNat ∧ a.toNat < 0xE0) (hb : Tail b) (h : WellFormed rest) :
    WellFormed (a :: b :: rest) := by
  have hbits : tailBits b < 64 := by
    unfold Tail at hb
    unfold tailBits
    omega
  change WellFormed ([a, b] ++ rest)
  refine .append (.two (by omega) hb) ?_ (by omega) h
  change 0x80 ≤ _
  omega

theorem wellFormed_three (ha : 0xE0 ≤ a.toNat ∧ a.toNat < 0xF0) (hb : follows a b) (hc : Tail c)
    (h : WellFormed rest) : WellFormed (a :: b :: c :: rest) := by
  have hbits : tailBits c < 64 := by
    unfold Tail at hc
    unfold tailBits
    omega
  have hsecond : Tail b := tail_of_follows hb
  rw [follows_iff] at hb
  change WellFormed ([a, b, c] ++ rest)
  refine .append (.three ha hsecond hc) ?_ ?_ h
  · change 0x800 ≤ _
    unfold tailBits
    omega
  · unfold tailBits at hbits ⊢
    omega

theorem wellFormed_four (ha : 0xF0 ≤ a.toNat ∧ a.toNat ≤ 0xF4) (hb : follows a b) (hc : Tail c)
    (hd : Tail d) (h : WellFormed rest) : WellFormed (a :: b :: c :: d :: rest) := by
  have hsecond : Tail b := tail_of_follows hb
  rw [follows_iff] at hb
  unfold Tail at hc hd
  change WellFormed ([a, b, c, d] ++ rest)
  refine .append (.four (by omega) hsecond hc hd) ?_ ?_ h
  · change 0x10000 ≤ _
    unfold tailBits
    omega
  · unfold tailBits
    omega

end Sequences

/-- What is read is well-formed: every other step of the reader ends in a flaw. -/
theorem wellFormed_of_decodeFrom {p : Nat} {bytes : Bytes} {cs : List Char}
    (h : decodeFrom p bytes = .ok cs) : WellFormed bytes := by
  fun_induction decodeFrom p bytes generalizing cs with
  | case1 => exact .nil
  | case2 p a rest ha ih =>
    obtain ⟨later, hlater, -⟩ := Results.map_eq_ok_iff.mp h
    exact wellFormed_one (UInt8.lt_iff_toNat_lt.mp ha) (ih hlater)
  | case6 p a hone hlead ha b rest hb ih =>
    obtain ⟨later, hlater, -⟩ := Results.map_eq_ok_iff.mp h
    simp [UInt8.lt_iff_toNat_lt] at hlead ha
    exact wellFormed_two ⟨hlead.1, ha⟩ (tail_iff.mpr (by simpa using hb)) (ih hlater)
  | case11 p a hone hlead htwo ha b hb c rest hc ih =>
    obtain ⟨later, hlater, -⟩ := Results.map_eq_ok_iff.mp h
    simp [UInt8.lt_iff_toNat_lt] at htwo ha
    exact wellFormed_three ⟨htwo, ha⟩ (by simpa using hb) (tail_iff.mpr (by simpa using hc)) (ih hlater)
  | case18 p a hone hlead htwo hthree b hb c hc d rest hd ih =>
    obtain ⟨later, hlater, -⟩ := Results.map_eq_ok_iff.mp h
    simp [UInt8.lt_iff_toNat_lt] at hlead hthree
    exact wellFormed_four ⟨hthree, hlead.2⟩ (by simpa using hb) (tail_iff.mpr (by simpa using hc))
      (tail_iff.mpr (by simpa using hd)) (ih hlater)
  | _ => simp at h

theorem wellFormed_of_decode {bytes : Bytes} {cs : List Char} (h : decode bytes = .ok cs) :
    WellFormed bytes := by
  cases hread : decodeFrom 0 bytes with
  | error spot => simp [decode, hread] at h
  | ok found => exact wellFormed_of_decodeFrom hread

/-- A text is read from the bytes that are written of it, and from no others. -/
theorem decode_eq_ok_iff {bytes : Bytes} {cs : List Char} :
    decode bytes = .ok cs ↔ bytes = encode cs := by
  constructor
  · intro h
    obtain ⟨written, rfl⟩ := (wellFormed_of_decode h).exists_encode
    rw [decode_encode] at h
    rw [Except.ok.inj h]
  · intro h
    rw [h, decode_encode]

/-- Well-formed bytes are exactly what is written of a text. -/
theorem wellFormed_iff {bytes : Bytes} : WellFormed bytes ↔ ∃ cs, bytes = encode cs := by
  constructor
  · exact WellFormed.exists_encode
  · rintro ⟨cs, rfl⟩
    exact wellFormed_of_decode (decode_encode cs)

/-- A flaw is found in all other bytes. -/
theorem not_wellFormed_iff {bytes : Bytes} : ¬ WellFormed bytes ↔ ∃ flaw, decode bytes = .error flaw := by
  rw [← Results.not_ok_iff, wellFormed_iff]
  simp only [ne_eq, decode_eq_ok_iff, not_exists]

end FactIntake.Encoding.Utf8
