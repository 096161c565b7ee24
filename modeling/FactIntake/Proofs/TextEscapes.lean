import FactIntake.Json.Reader
import FactIntake.Json.Writer

/-!
Texts read back. Every character is written so that the reader takes exactly what was written for it:
as it is, as an escape, or as one or two units of four hexadecimal digits. A unit that is no first half
of a pair is not joined to what comes after it.
-/

namespace FactIntake.Json

theorem hexValue?_hexDigit : ∀ d < 16, hexValue? (Text.hexDigit d) = some d := by decide

/-- The four digits of a unit. -/
theorem hexDigits_four (n : Nat) : Text.hexDigits 4 n =
    [Text.hexDigit (n / 16 / 16 / 16 % 16), Text.hexDigit (n / 16 / 16 % 16),
      Text.hexDigit (n / 16 % 16), Text.hexDigit (n % 16)] := rfl

theorem unitOf?_hexDigits {n : Nat} (hn : n < 0x10000) :
    unitOf? (Text.hexDigit (n / 16 / 16 / 16 % 16)) (Text.hexDigit (n / 16 / 16 % 16))
      (Text.hexDigit (n / 16 % 16)) (Text.hexDigit (n % 16)) = some n := by
  have hvalue (m : Nat) : hexValue? (Text.hexDigit (m % 16)) = some (m % 16) :=
    hexValue?_hexDigit _ (Nat.mod_lt _ (by decide))
  simp only [unitOf?, hvalue, bind, Option.bind, pure, Option.some.injEq]
  omega

/-- What may come after a unit: not the end, and another unit only with its digits. -/
structure GoesOn (rest : List Char) : Prop where
  ne_nil : rest ≠ []
  unit : ∀ a b c d more, rest = '\\' :: 'u' :: a :: b :: c :: d :: more → (unitOf? a b c d).isSome

section Read

variable {start p : Nat} {rest : List Char}

theorem readText_plain {c : Char} (hquote : c ≠ '"') (hslash : c ≠ '\\') (hcontrol : ¬ c.toNat < 0x20) :
    readText start p (c :: rest) =
      (readText start (p + 1) rest).map fun (cs, after) => (c :: cs, after) := by
  rw [readText]
  · rw [if_neg hcontrol]
  all_goals simp_all

theorem readText_escape {c e : Char} (hc : c ≠ 'u') (h : simpleEscape? c = some e) :
    readText start p ('\\' :: c :: rest) =
      (readText start (p + 2) rest).map fun (cs, after) => (e :: cs, after) := by
  rw [readText]
  · simp only [h]
  all_goals simp_all

/-- A unit that is no first half of a pair stands alone. -/
theorem readText_unit {u : Nat} (hu : u < 0x10000) (hhigh : isHighUnit u = false) (hrest : GoesOn rest) :
    readText start p (escapedUnit u ++ rest) =
      (readText start (p + 6) rest).map fun (cs, after) => (loneUnit u :: cs, after) := by
  obtain ⟨x, more, rfl⟩ := List.exists_cons_of_ne_nil hrest.ne_nil
  simp only [escapedUnit, hexDigits_four, List.cons_append, List.nil_append]
  rw [readText]
  simp only [unitOf?_hexDigits hu]
  split
  · next e f g h y more =>
    obtain ⟨v, hv⟩ := Option.isSome_iff_exists.mp (hrest.unit e f g h (y :: more) rfl)
    simp only [hv, hhigh, Bool.false_and, Bool.false_eq_true, if_false]
  · rfl

theorem readText_pair {high low : Nat} (hhigh : isHighUnit high) (hlow : isLowUnit low) (hne : rest ≠ []) :
    readText start p (escapedUnit high ++ (escapedUnit low ++ rest)) =
      (readText start (p + 12) rest).map fun (cs, after) => (joinedUnits high low :: cs, after) := by
  obtain ⟨y, more, rfl⟩ := List.exists_cons_of_ne_nil hne
  have hhigh' : high < 0x10000 := by
    simp only [isHighUnit, Bool.and_eq_true, decide_eq_true_eq] at hhigh
    omega
  have hlow' : low < 0x10000 := by
    simp only [isLowUnit, Bool.and_eq_true, decide_eq_true_eq] at hlow
    omega
  simp only [escapedUnit, hexDigits_four, List.cons_append, List.nil_append]
  rw [readText]
  simp only [unitOf?_hexDigits hhigh', unitOf?_hexDigits hlow', hhigh, hlow, Bool.and_self, if_true]

/-- The units of a character are read as that character. -/
theorem readText_escapedUnits (c : Char) (hrest : GoesOn rest) :
    ∃ n, readText start p (escapedUnits c ++ rest) =
      (readText start (p + n) rest).map fun (cs, after) => (c :: cs, after) := by
  have hvalid : c.toNat < 0xD800 ∨ 0xDFFF < c.toNat ∧ c.toNat < 0x110000 := c.valid
  by_cases hsmall : c.toNat < 0x10000
  · have hhigh : isHighUnit c.toNat = false := by
      simp only [isHighUnit, Bool.and_eq_false_iff, decide_eq_false_iff_not]
      omega
    have hlow : isLowUnit c.toNat = false := by
      simp only [isLowUnit, Bool.and_eq_false_iff, decide_eq_false_iff_not]
      omega
    have hlone : loneUnit c.toNat = c := by
      simp only [loneUnit, hhigh, hlow, Bool.or_self, Bool.false_eq_true, if_false, Char.ofNat_toNat]
    refine ⟨6, ?_⟩
    rw [escapedUnits, if_pos hsmall, readText_unit hsmall hhigh hrest, hlone]
  · have hhigh : isHighUnit (0xD800 + (c.toNat - 0x10000) / 0x400) := by
      simp only [isHighUnit, Bool.and_eq_true, decide_eq_true_eq]
      omega
    have hlow : isLowUnit (0xDC00 + (c.toNat - 0x10000) % 0x400) := by
      simp only [isLowUnit, Bool.and_eq_true, decide_eq_true_eq]
      omega
    have hjoined : joinedUnits (0xD800 + (c.toNat - 0x10000) / 0x400)
        (0xDC00 + (c.toNat - 0x10000) % 0x400) = c := by
      rw [joinedUnits, show 0x10000 + (0xD800 + (c.toNat - 0x10000) / 0x400 - 0xD800) * 0x400 +
        (0xDC00 + (c.toNat - 0x10000) % 0x400 - 0xDC00) = c.toNat by omega, Char.ofNat_toNat]
    refine ⟨12, ?_⟩
    simp only [escapedUnits, hsmall, if_false, List.append_assoc]
    rw [readText_pair hhigh hlow hrest.ne_nil, hjoined]

end Read

/-- A character is written with a letter, as it is, or as its units. -/
theorem escapeChar_cases (charset : Charset) (c : Char) :
    (∃ letter, escapeChar charset c = ['\\', letter] ∧ letter ≠ 'u' ∧ simpleEscape? letter = some c) ∨
      (escapeChar charset c = [c] ∧ c ≠ '"' ∧ c ≠ '\\' ∧ ¬ c.toNat < 0x20) ∨
      escapeChar charset c = escapedUnits c := by
  by_cases hquote : c = '"'
  · subst hquote
    exact Or.inl ⟨'"', rfl, by decide, rfl⟩
  by_cases hslash : c = '\\'
  · subst hslash
    exact Or.inl ⟨'\\', rfl, by decide, rfl⟩
  have hquote' : (c == '"') = false := by simpa using hquote
  have hslash' : (c == '\\') = false := by simpa using hslash
  by_cases hkept : charset.keeps c
  · have hspace : ' ' ≤ c := by
      cases charset with
      | ascii => simpa using (Bool.and_eq_true_iff.mp hkept).1
      | raw => simpa [Charset.keeps] using hkept
    have hcontrol : ¬ c.toNat < 0x20 := by
      rw [Char.le_def, UInt32.le_iff_toNat_le] at hspace
      exact Nat.not_lt.mpr hspace
    refine Or.inr (Or.inl ⟨?_, hquote, hslash, hcontrol⟩)
    simp only [escapeChar, hquote', hslash', hkept, Bool.false_eq_true, if_false, if_true]
  simp only [escapeChar, hquote', hslash', hkept, Bool.false_eq_true, if_false]
  by_cases hline : c = '\n'
  · subst hline
    exact Or.inl ⟨'n', rfl, by decide, rfl⟩
  by_cases hreturn : c = '\r'
  · subst hreturn
    exact Or.inl ⟨'r', rfl, by decide, rfl⟩
  by_cases htab : c = '\t'
  · subst htab
    exact Or.inl ⟨'t', rfl, by decide, rfl⟩
  by_cases hback : c = Char.ofNat 8
  · subst hback
    exact Or.inl ⟨'b', rfl, by decide, rfl⟩
  by_cases hfeed : c = Char.ofNat 12
  · subst hfeed
    exact Or.inl ⟨'f', rfl, by decide, rfl⟩
  · simp [hline, hreturn, htab, hback, hfeed]

/-- What is written for a character is read as that character. -/
theorem readText_escapeChar (charset : Charset) (start p : Nat) (c : Char) {rest : List Char}
    (hrest : GoesOn rest) :
    ∃ n, readText start p (escapeChar charset c ++ rest) =
      (readText start (p + n) rest).map fun (cs, after) => (c :: cs, after) := by
  rcases escapeChar_cases charset c with ⟨letter, hchars, hletter, hmeans⟩ |
    ⟨hchars, hquote, hslash, hcontrol⟩ | hchars
  · exact ⟨2, by rw [hchars]; exact readText_escape hletter hmeans⟩
  · exact ⟨1, by rw [hchars]; exact readText_plain hquote hslash hcontrol⟩
  · rw [hchars]
    exact readText_escapedUnits c hrest

theorem escapedUnit_digits {u : Nat} (hu : u < 0x10000) {rest : List Char} {a b c d : Char}
    {more : List Char} (h : escapedUnit u ++ rest = '\\' :: 'u' :: a :: b :: c :: d :: more) :
    (unitOf? a b c d).isSome := by
  simp only [escapedUnit, hexDigits_four, List.cons_append, List.nil_append, List.cons.injEq,
    true_and] at h
  obtain ⟨rfl, rfl, rfl, rfl, -⟩ := h
  rw [unitOf?_hexDigits hu]
  rfl

/-- What is written for more characters, and the closing quote, may come after a unit. -/
theorem goesOn_escaped (charset : Charset) (cs tail : List Char) :
    GoesOn (cs.flatMap (escapeChar charset) ++ '"' :: tail) := by
  refine ⟨by simp, fun a b c d more h => ?_⟩
  cases cs with
  | nil => simp at h
  | cons first cs =>
    rw [List.flatMap_cons, List.append_assoc] at h
    rcases escapeChar_cases charset first with ⟨letter, hchars, hletter, -⟩ | ⟨hchars, -, hslash, -⟩ | hchars
    · rw [hchars] at h
      simp [hletter] at h
    · rw [hchars] at h
      simp [hslash] at h
    · rw [hchars, escapedUnits] at h
      split at h
      · next hsmall => exact escapedUnit_digits hsmall h
      · have hvalid : first.toNat < 0xD800 ∨ 0xDFFF < first.toNat ∧ first.toNat < 0x110000 := first.valid
        rw [List.append_assoc] at h
        exact escapedUnit_digits (by omega) h

/-- A text reads back whatever its characters are. -/
theorem readText_escaped (charset : Charset) (start : Nat) (cs tail : List Char) (p : Nat) :
    ∃ last, readText start p (cs.flatMap (escapeChar charset) ++ '"' :: tail) =
      .ok (cs, ⟨last, tail⟩) := by
  induction cs generalizing p with
  | nil => exact ⟨p + 1, by rw [List.flatMap_nil, List.nil_append, readText]⟩
  | cons c cs ih =>
    obtain ⟨n, hfirst⟩ := readText_escapeChar charset start p c (goesOn_escaped charset cs tail)
    obtain ⟨last, hlater⟩ := ih (p + n)
    refine ⟨last, ?_⟩
    rw [List.flatMap_cons, List.append_assoc, hfirst, hlater]
    rfl

end FactIntake.Json
