import FactIntake.Json.Reader
import FactIntake.Json.Writer
import FactIntake.Proofs.ShortestDecimal
import Mathlib.Data.List.TakeWhile

/-!
The text of numbers. A numeral is a sign, whole digits, digits after a point and an exponent; the reader
takes these apart again, wherever the text goes on with something else. What is written of a number
is such a numeral, and its value is that of the digits that were to be written.
-/

namespace FactIntake.Binary64

theorem isDigit_of_char {c : Char} (h : c.isDigit) : isDigit c := by
  simpa [isDigit, Char.isDigit, Char.le_def, and_comm] using h

theorem natOf_append (first later : List Char) :
    natOf (first ++ later) = natOf first * 10 ^ later.length + natOf later := by
  show Nat.ofDigitChars 10 (first ++ later) 0 = _
  rw [Nat.ofDigitChars_append, Nat.ofDigitChars_eq_ofDigitChars_zero, mul_comm]
  rfl

theorem natOf_zeros (n : ℕ) : natOf (zeros n) = 0 := by
  show Nat.ofDigitChars 10 (List.replicate n '0') 0 = 0
  simp

theorem natOf_append_zeros (digits : List Char) (n : ℕ) :
    natOf (digits ++ zeros n) = natOf digits * 10 ^ n := by
  rw [natOf_append, natOf_zeros, zeros, List.length_replicate, add_zero]

theorem isDigit_of_mem_zeros {n : ℕ} {c : Char} (h : c ∈ zeros n) : isDigit c := by
  obtain rfl := List.eq_of_mem_replicate h
  decide

theorem natOf_toDigits (n : ℕ) : natOf (Nat.toDigits 10 n) = n := Nat.ofDigitChars_ten_toDigits

theorem isDigit_of_mem_toDigits {n : ℕ} {c : Char} (h : c ∈ Nat.toDigits 10 n) : isDigit c :=
  isDigit_of_char (Nat.isDigit_of_mem_toDigits (by norm_num) le_rfl h)

theorem natOf_lt {digits : List Char} (h : ∀ c ∈ digits, isDigit c) : natOf digits < 10 ^ digits.length := by
  induction digits using List.reverseRecOn with
  | nil => simp [natOf]
  | append_singleton digits c ih =>
    have hc : digitValue c ≤ 9 := by
      have hdigit : isDigit c := h c (by simp)
      simp only [isDigit, Bool.and_eq_true, decide_eq_true_eq, Char.le_def, UInt32.le_iff_toNat_le] at hdigit
      have hle : c.toNat ≤ 57 := hdigit.2
      unfold digitValue
      omega
    have hfirst := ih fun d hd => h d (by simp [hd])
    have hlast : natOf [c] = digitValue c := by simp [natOf]
    rw [natOf_append, hlast, List.length_append, List.length_singleton, pow_one, pow_succ]
    omega

/-- The digits of a number, up to any number of places. -/
theorem length_toDigits_le {n places : ℕ} (hplaces : 0 < places) (h : n < 10 ^ places) :
    (Nat.toDigits 10 n).length ≤ places := (Nat.length_toDigits_le_iff (by norm_num) hplaces).mpr h

/-- A number other than zero does not begin with a zero. -/
theorem head_toDigits_ne {n : ℕ} (hn : 0 < n) : (Nat.toDigits 10 n).head? ≠ some '0' := by
  induction n using Nat.strongRecOn with
  | ind n ih =>
    rcases Nat.lt_or_ge n 10 with hsmall | hlarge
    · rw [Nat.toDigits_of_lt_base hsmall]
      simpa using hn.ne'
    · have hlead := ih (n / 10) (Nat.div_lt_self hn (by norm_num)) (Nat.div_pos hlarge (by norm_num))
      rw [Nat.toDigits_of_base_le (by norm_num) hlarge, List.head?_append_of_ne_nil _ Nat.toDigits_ne_nil]
      exact hlead

end FactIntake.Binary64

namespace FactIntake.Json

open Binary64

/-- The text of a number from its parts; a point stands before digits only. -/
def numeral (negative : Bool) (whole fraction exponent : List Char) : List Char :=
  (if negative then ['-'] else []) ++
    (whole ++ ((if fraction.isEmpty then [] else '.' :: fraction) ++ exponent))

/-- Parts that the reader tells apart. -/
structure NumeralParts (whole fraction exponent : List Char) : Prop where
  whole_ne_nil : whole ≠ []
  whole_digits : ∀ c ∈ whole, isDigit c
  whole_head : whole.head? = some '0' → whole = ['0']
  fraction_digits : ∀ c ∈ fraction, isDigit c
  exponent_form : exponent = [] ∨ ∃ sign digits, exponent = 'e' :: sign :: digits ∧
    (sign = '-' ∨ sign = '+') ∧ digits ≠ [] ∧ ∀ c ∈ digits, isDigit c

/-- A text that a number does not go on with. -/
def EndsNumber (tail : List Char) : Prop :=
  ∀ c, tail.head? = some c → isDigit c = false ∧ c ≠ '.' ∧ c ≠ 'e' ∧ c ≠ 'E'

theorem takeWhile_digits_append {digits rest : List Char} (h : ∀ c ∈ digits, isDigit c)
    (hrest : ∀ c, rest.head? = some c → isDigit c = false) :
    (digits ++ rest).takeWhile isDigit = digits := by
  rw [List.takeWhile_append_of_pos h]
  cases rest with
  | nil => simp
  | cons c rest => simp [hrest c rfl]

section Numeral

variable {whole fraction exponent tail : List Char}

theorem exponentChars_eq_nil (h : EndsNumber tail) : exponentChars tail = [] := by
  cases tail with
  | nil => rfl
  | cons c rest =>
    obtain ⟨-, -, he, hE⟩ := h c rfl
    simp [exponentChars, he, hE]

theorem exponentChars_append (hparts : NumeralParts whole fraction exponent) (h : EndsNumber tail) :
    exponentChars (exponent ++ tail) = exponent := by
  rcases hparts.exponent_form with rfl | ⟨sign, digits, rfl, hsign, hne, hdigits⟩
  · exact exponentChars_eq_nil h
  · have htaken : (digits ++ tail).takeWhile isDigit = digits :=
      takeWhile_digits_append hdigits fun c hc => (h c hc).1
    rcases hsign with rfl | rfl <;> simp [exponentChars, htaken, hne]

/-- What follows the digits of a fraction is no digit, and no other point. -/
theorem head_exponent_append (hparts : NumeralParts whole fraction exponent) (h : EndsNumber tail) :
    ∀ c, (exponent ++ tail).head? = some c → isDigit c = false ∧ c ≠ '.' := by
  rcases hparts.exponent_form with rfl | ⟨sign, digits, rfl, -⟩
  · exact fun c hc => ⟨(h c hc).1, (h c hc).2.1⟩
  · intro c hc
    obtain rfl : 'e' = c := by simpa using hc
    decide

theorem fractionDigits_append (hparts : NumeralParts whole fraction exponent) (h : EndsNumber tail) :
    fractionDigits ((if fraction.isEmpty then [] else '.' :: fraction) ++ (exponent ++ tail)) =
      fraction := by
  have hhead := head_exponent_append hparts h
  cases fraction with
  | nil =>
    generalize exponent ++ tail = rest at hhead
    cases rest with
    | nil => rfl
    | cons c rest =>
      have hpoint := (hhead c rfl).2
      simp only [List.isEmpty_nil, if_true, List.nil_append]
      unfold fractionDigits
      split
      · next heq =>
        obtain ⟨rfl, -⟩ := List.cons.inj heq
        exact absurd rfl hpoint
      · rfl
  | cons d digits =>
    exact takeWhile_digits_append hparts.fraction_digits fun c hc => (hhead c hc).1

theorem wholeDigits_append {rest : List Char} (hparts : NumeralParts whole fraction exponent)
    (hrest : ∀ c, rest.head? = some c → isDigit c = false) : wholeDigits (whole ++ rest) = whole := by
  cases whole with
  | nil => exact absurd rfl hparts.whole_ne_nil
  | cons c digits =>
    by_cases hzero : c = '0'
    · subst hzero
      obtain rfl : digits = [] := by simpa using hparts.whole_head rfl
      rfl
    · have htaken := takeWhile_digits_append hparts.whole_digits hrest
      rw [List.cons_append] at htaken ⊢
      unfold wholeDigits
      split
      · next heq => exact absurd (List.cons.inj heq).1 hzero
      · exact htaken

/-- Whole digits are followed by a point, an exponent or the end. -/
theorem head_fraction_append (hparts : NumeralParts whole fraction exponent) (h : EndsNumber tail) :
    ∀ c, ((if fraction.isEmpty then [] else '.' :: fraction) ++ (exponent ++ tail)).head? = some c →
      isDigit c = false := by
  cases fraction with
  | nil => exact fun c hc => (head_exponent_append hparts h c hc).1
  | cons d digits =>
    intro c hc
    obtain rfl : '.' = c := by simpa using hc
    decide

theorem head_numeral (negative : Bool) (tail : List Char) (hparts : NumeralParts whole fraction exponent) :
    ((numeral negative whole fraction exponent ++ tail).head? == some '-') = negative := by
  cases negative with
  | true => rfl
  | false =>
    cases whole with
    | nil => exact absurd rfl hparts.whole_ne_nil
    | cons c digits =>
      have hc : c ≠ '-' := by
        rintro rfl
        exact absurd (hparts.whole_digits '-' (by simp)) (by decide)
      simpa [numeral] using hc

/-- The reader takes a numeral apart into its parts and stops behind it. -/
theorem readNumber_numeral (limits : Limits) (position : ℕ) (negative : Bool)
    (hparts : NumeralParts whole fraction exponent) (h : EndsNumber tail) :
    ∃ last, readNumber limits ⟨position, numeral negative whole fraction exponent ++ tail⟩ =
      if fraction.isEmpty && exponent.isEmpty then
        if !limits.allowDigits whole.length then .error (.longNumeral whole.length)
        else .ok (int (if negative then -(natOf whole : ℤ) else natOf whole), ⟨last, tail⟩)
      else .ok (float (ofParts negative whole fraction (intOf (exponent.drop 1))), ⟨last, tail⟩) := by
  have hnegative := head_numeral negative tail hparts
  have hwhole := wholeDigits_append hparts (head_fraction_append hparts h)
  have hfraction := fractionDigits_append hparts h
  have hexponent := exponentChars_append hparts h
  have hlength : (if fraction.isEmpty then 0 else fraction.length + 1) =
      (if fraction.isEmpty then [] else '.' :: fraction).length := by
    split <;> rfl
  have hunsigned : (if negative then (numeral negative whole fraction exponent ++ tail).drop 1
      else numeral negative whole fraction exponent ++ tail) =
        whole ++ ((if fraction.isEmpty then [] else '.' :: fraction) ++ (exponent ++ tail)) := by
    cases negative <;> simp [numeral]
  have hall : (numeral negative whole fraction exponent).length = (if negative then 1 else 0) +
      whole.length + (if fraction.isEmpty then [] else '.' :: fraction).length + exponent.length := by
    cases negative <;> simp only [numeral, List.length_append, if_true, Bool.false_eq_true, if_false,
      List.length_singleton, List.length_nil] <;> omega
  have hne : whole.isEmpty = false := by simpa using hparts.whole_ne_nil
  refine ⟨position + (numeral negative whole fraction exponent).length, ?_⟩
  simp only [readNumber, hnegative, hunsigned, hwhole, hne, Bool.false_eq_true, if_false,
    List.drop_left, hfraction, hlength, hexponent, ← hall]

end Numeral

theorem numeralParts_toDigits (n : ℕ) : NumeralParts (Nat.toDigits 10 n) [] [] := by
  refine ⟨Nat.toDigits_ne_nil, fun c hc => isDigit_of_mem_toDigits hc, fun hhead => ?_, by simp, Or.inl rfl⟩
  rcases Nat.eq_zero_or_pos n with rfl | hn
  · exact Nat.toDigits_zero 10
  · exact absurd hhead (head_toDigits_ne hn)

theorem intChars_eq (n : ℤ) : intChars n = numeral (n < 0) (Nat.toDigits 10 n.natAbs) [] [] := by
  by_cases hn : n < 0 <;> simp [intChars, natChars, numeral, hn]

theorem readNumber_intChars {limits : Limits} {n : ℤ} (hdigits : limits.allowDigits (digitCount n.natAbs))
    (position : ℕ) {tail : List Char} (h : EndsNumber tail) :
    ∃ last, readNumber limits ⟨position, intChars n ++ tail⟩ = .ok (int n, ⟨last, tail⟩) := by
  obtain ⟨last, hread⟩ :=
    readNumber_numeral limits position (n < 0) (numeralParts_toDigits n.natAbs) h
  refine ⟨last, ?_⟩
  have hsigned : (if decide (n < 0) = true then -(n.natAbs : ℤ) else n.natAbs) = n := by
    simp only [decide_eq_true_eq]
    split <;> omega
  rw [intChars_eq, hread, natOf_toDigits, hsigned]
  have hallowed : limits.allowDigits (Nat.toDigits 10 n.natAbs).length = true := hdigits
  simp only [List.isEmpty_nil, Bool.and_self, if_true, hallowed, Bool.not_true, Bool.false_eq_true,
    if_false]

theorem intOf_exponentText (e : ℤ) : intOf (exponentText e) = e := by
  have hpadded : ∀ digits : List Char,
      natOf (if digits.length < 2 then '0' :: digits else digits) = natOf digits := by
    intro digits
    split
    · exact natOf_append ['0'] digits |>.trans (by simp [natOf, digitValue])
    · rfl
  unfold exponentText intOf
  by_cases he : e < 0
  · simp only [he, if_true, signOf, hpadded, natOf_toDigits]
    omega
  · simp only [he, if_false, signOf, hpadded, natOf_toDigits, Bool.false_eq_true]
    omega

theorem exponentText_form (e : ℤ) : ∃ sign digits, exponentText e = sign :: digits ∧
    (sign = '-' ∨ sign = '+') ∧ digits ≠ [] ∧ ∀ c ∈ digits, isDigit c := by
  refine ⟨_, _, rfl, ?_, ?_, ?_⟩
  · by_cases he : e < 0 <;> simp [he]
  · split
    · simp
    · exact Nat.toDigits_ne_nil
  · intro c hc
    split at hc
    · rcases List.mem_cons.mp hc with rfl | hc
      · decide
      · exact isDigit_of_mem_toDigits hc
    · exact isDigit_of_mem_toDigits hc

/-- A numeral with a point or an exponent has the value of digits at their point. -/
structure Spells (whole fraction exponent digits : List Char) (point : ℤ) : Prop where
  parts : NumeralParts whole fraction exponent
  marked : (fraction.isEmpty && exponent.isEmpty) = false
  value : (natOf (whole ++ fraction) : ℚ) * 10 ^ (intOf (exponent.drop 1) - fraction.length) =
    natOf digits * 10 ^ (point - digits.length)

section LayOut

variable {digits : List Char} {point : ℤ}

theorem spells_scientific (hne : digits ≠ []) (hdigits : ∀ c ∈ digits, isDigit c)
    (hhead : digits.head? ≠ some '0') :
    Spells (digits.take 1) (digits.drop 1) ('e' :: exponentText (point - 1)) digits point := by
  obtain ⟨first, rest, rfl⟩ := List.exists_cons_of_ne_nil hne
  obtain ⟨sign, exponent, hform, hsign⟩ := exponentText_form (point - 1)
  refine ⟨⟨by simp, ?_, fun h => absurd h hhead, ?_, Or.inr ⟨sign, exponent, by rw [hform], hsign⟩⟩, ?_, ?_⟩
  · exact fun c hc => hdigits c (List.mem_of_mem_take hc)
  · exact fun c hc => hdigits c (List.mem_of_mem_drop hc)
  · simp
  · rw [List.take_append_drop, List.drop_one, List.tail_cons, intOf_exponentText]
    congr 2
    simp only [List.drop_one, List.tail_cons, List.length_cons]
    push_cast
    ring

theorem spells_fraction (hne : digits ≠ []) (hdigits : ∀ c ∈ digits, isDigit c) (hpoint : point ≤ 0) :
    Spells ['0'] (zeros (-point).toNat ++ digits) [] digits point := by
  refine ⟨⟨by simp, List.forall_mem_singleton.mpr rfl, fun _ => rfl, ?_, Or.inl rfl⟩, by simp [hne], ?_⟩
  · intro c hc
    rcases List.mem_append.mp hc with hc | hc
    · exact isDigit_of_mem_zeros hc
    · exact hdigits c hc
  · have hvalue : natOf (['0'] ++ (zeros (-point).toNat ++ digits)) = natOf digits := by
      rw [natOf_append, natOf_append, natOf_zeros]
      simp [natOf, digitValue]
    have hlength : (zeros (-point).toNat ++ digits).length = (-point).toNat + digits.length := by
      simp [zeros]
    have hnone : intOf [] = 0 := rfl
    rw [hvalue, hlength, List.drop_nil, hnone]
    congr 2
    omega

/-- Digits with the point among them or behind them have their value; a zero stands after a point at the
end. -/
theorem value_positional (digits : List Char) (places : ℕ) :
    (natOf (digits.take places ++ zeros (places - (digits.take places).length) ++
        if (digits.drop places).isEmpty then ['0'] else digits.drop places) : ℚ) *
      10 ^ (-((if (digits.drop places).isEmpty then ['0'] else digits.drop places).length : ℤ)) =
      natOf digits * 10 ^ ((places : ℤ) - digits.length) := by
  by_cases hmore : places < digits.length
  · have htaken : (digits.take places).length = places := List.length_take_of_le hmore.le
    have hrest : (digits.drop places).isEmpty = false := by simpa using hmore
    simp only [htaken, Nat.sub_self, hrest, Bool.false_eq_true, if_false]
    rw [zeros, List.replicate_zero, List.append_nil, List.take_append_drop, List.length_drop]
    congr 2
    omega
  · have hless : digits.length ≤ places := not_lt.mp hmore
    have hrest : (digits.drop places).isEmpty = true := by simpa using hless
    have hvalue : natOf (digits ++ zeros (places - digits.length) ++ ['0']) =
        natOf digits * 10 ^ (places - digits.length) * 10 := by
      rw [show ['0'] = zeros 1 from rfl, natOf_append_zeros, natOf_append_zeros, pow_one]
    simp only [List.take_of_length_le hless, hrest, if_true, hvalue]
    rw [show (places : ℤ) - digits.length = (places - digits.length : ℕ) by omega, zpow_natCast]
    push_cast
    rw [List.length_singleton, Nat.cast_one, zpow_neg_one, mul_assoc, mul_inv_cancel₀ (by norm_num), mul_one]

theorem spells_positional (hdigits : ∀ c ∈ digits, isDigit c) (hhead : digits.head? ≠ some '0')
    (hne : digits ≠ []) (hpoint : 0 < point) :
    Spells (digits.take point.toNat ++ zeros (point.toNat - (digits.take point.toNat).length))
      (if (digits.drop point.toNat).isEmpty then ['0'] else digits.drop point.toNat) [] digits point := by
  obtain ⟨places, rfl⟩ := Int.eq_ofNat_of_zero_le hpoint.le
  have hnone : intOf [] = 0 := rfl
  have hplaces : 0 < places := by omega
  simp only [Int.toNat_natCast]
  refine ⟨⟨?_, fun c hc => ?_, fun h => ?_, fun c hc => ?_, Or.inl rfl⟩, ?_, ?_⟩
  · simp [hne, hplaces.ne']
  · rcases List.mem_append.mp hc with hc | hc
    · exact hdigits c (List.mem_of_mem_take hc)
    · exact isDigit_of_mem_zeros hc
  · refine absurd ?_ hhead
    rwa [List.head?_append_of_ne_nil _ (by simp [hne, hplaces.ne']), List.head?_take,
      if_neg hplaces.ne'] at h
  · split at hc
    · obtain rfl := List.mem_singleton.mp hc
      decide
    · exact hdigits c (List.mem_of_mem_drop hc)
  · split
    · rfl
    · next hmore => simpa using hmore
  · rw [List.drop_nil, hnone, zero_sub]
    exact value_positional digits places

end LayOut

/-- Digits laid out around their point are a numeral of the value that they have there. -/
theorem layOut_spells {digits : List Char} (hne : digits ≠ []) (hdigits : ∀ c ∈ digits, isDigit c)
    (hhead : digits.head? ≠ some '0') (point : ℤ) :
    ∃ whole fraction exponent, layOut digits point = numeral false whole fraction exponent ∧
      Spells whole fraction exponent digits point := by
  unfold layOut
  by_cases hfar : point > 16 || point < -3
  · exact ⟨_, _, _, by simp [hfar, numeral], spells_scientific hne hdigits hhead⟩
  · by_cases hsmall : point ≤ 0
    · exact ⟨_, _, _, by simp [hfar, hsmall, numeral, hne], spells_fraction hne hdigits hsmall⟩
    · refine ⟨_, _, _, ?_, spells_positional hdigits hhead hne (not_le.mp hsmall)⟩
      have hmarked : (if (digits.drop point.toNat).isEmpty then ['0']
          else digits.drop point.toNat).isEmpty = false := by
        split
        · rfl
        · next hmore => simpa using hmore
      simp only [numeral, hmarked, hfar, hsmall, Bool.false_eq_true, if_false, List.nil_append,
        List.append_nil, List.append_assoc]

theorem dropZeros_append (digits : List Char) : ∃ n, digits = dropZeros digits ++ zeros n := by
  refine ⟨(digits.reverse.takeWhile (· == '0')).length, ?_⟩
  have hzeros : (digits.reverse.takeWhile (· == '0')).reverse =
      zeros (digits.reverse.takeWhile (· == '0')).length := by
    refine List.eq_replicate_iff.mpr ⟨List.length_reverse, fun c hc => ?_⟩
    simpa using List.mem_takeWhile_imp (List.mem_reverse.mp hc)
  rw [← hzeros, dropZeros, ← List.reverse_append, List.takeWhile_append_dropWhile, List.reverse_reverse]

/-- The digits of a decimal keep its value when trailing zeros are dropped. -/
theorem placed_spec {n : ℕ} (hn : 0 < n) (unit : ℤ) :
    (placed (n, unit)).1 ≠ [] ∧ (∀ c ∈ (placed (n, unit)).1, isDigit c) ∧
      (placed (n, unit)).1.head? ≠ some '0' ∧
      (natOf (placed (n, unit)).1 : ℚ) * 10 ^ ((placed (n, unit)).2 - (placed (n, unit)).1.length) =
        n * 10 ^ unit := by
  obtain ⟨dropped, hdropped⟩ := dropZeros_append (Nat.toDigits 10 n)
  simp only [placed]
  generalize hkept : dropZeros (Nat.toDigits 10 n) = kept at hdropped
  have hvalue : n = natOf kept * 10 ^ dropped := by
    have hall := natOf_toDigits n
    rw [hdropped, natOf_append_zeros] at hall
    exact hall.symm
  have hne : kept ≠ [] := by
    rintro rfl
    rw [hvalue] at hn
    simp [natOf] at hn
  refine ⟨hne, fun c hc => ?_, ?_, ?_⟩
  · exact isDigit_of_mem_toDigits (hdropped ▸ List.mem_append_left _ hc)
  · have hhead := head_toDigits_ne hn
    rwa [hdropped, List.head?_append_of_ne_nil _ hne] at hhead
  · have hlength : (Nat.toDigits 10 n).length = kept.length + dropped := by
      rw [hdropped, List.length_append, zeros, List.length_replicate]
    have hplaces : unit + ((kept.length + dropped : ℕ) : ℤ) - kept.length = dropped + unit := by
      push_cast
      ring
    rw [hlength, hplaces, zpow_add₀ (by norm_num), zpow_natCast, ← mul_assoc]
    congr 1
    rw [hvalue]
    push_cast
    rfl

/-- What is written of a finite number is a numeral of it. -/
theorem showChars_eq {negative : Bool} {significand : ℕ} {e : ℤ}
    (hcanonical : (Binary64.finite negative significand e).Canonical) :
    ∃ whole fraction exponent,
      (Binary64.finite negative significand e).showChars = numeral negative whole fraction exponent ∧
      NumeralParts whole fraction exponent ∧ (fraction.isEmpty && exponent.isEmpty) = false ∧
      ofParts negative whole fraction (intOf (exponent.drop 1)) = .finite negative significand e := by
  rcases Nat.eq_zero_or_pos significand with rfl | hpos
  · obtain rfl : e = leastExponent := hcanonical.2.2.2.resolve_left (by norm_num)
    have hzero : ∀ c ∈ ['0'], isDigit c := List.forall_mem_singleton.mpr rfl
    exact ⟨['0'], ['0'], [], rfl, ⟨by simp, hzero, fun _ => rfl, hzero, Or.inl rfl⟩, rfl, rfl⟩
  · have hshortest := ofDecimal_shortest hcanonical hpos
    have hn : 0 < (shortest significand e).1 := by
      refine Nat.pos_of_ne_zero fun hzero => ?_
      rw [hzero] at hshortest
      obtain ⟨-, hnone, -⟩ := Binary64.finite.inj hshortest
      omega
    obtain ⟨hne, hdigits, hhead, hvalue⟩ := placed_spec hn (shortest significand e).2
    obtain ⟨whole, fraction, exponent, hlayOut, hspells⟩ :=
      layOut_spells hne hdigits hhead (placed (shortest significand e)).2
    refine ⟨whole, fraction, exponent, ?_, hspells.parts, hspells.marked, ?_⟩
    · have hpositive : (significand == 0) = false := by simpa using hpos.ne'
      simp only [showChars, hpositive, Bool.false_eq_true, if_false, hlayOut]
      simp [numeral]
    · rw [ofDecimal_eq] at hshortest
      rw [ofParts, ofDecimal_eq, hspells.value, hvalue]
      exact nearest_of_positive hshortest

end FactIntake.Json
