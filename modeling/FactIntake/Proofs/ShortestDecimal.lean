import FactIntake.Decimal.Shortest
import FactIntake.Proofs.Rounding

/-!
The shortest decimal of a number reads back to it. The search takes only decimals that do; it always
meets one, for the decimal of seventeen digits that is nearest to a number is less than `2 ^ -54` of it
away.
-/

namespace FactIntake.Binary64

/-- Powers of ten below powers of two, from `10 ^ 3 < 2 ^ 10` upwards and `2 ^ 93 < 10 ^ 28` downwards. -/
theorem zpow_ten_le_zpow_two {m a : ℤ} (hup : 0 ≤ a → 10 * m ≤ 3 * a) (hdown : a < 0 → 93 * m ≤ 28 * a) :
    (10 : ℚ) ^ m ≤ 2 ^ a := by
  rcases le_or_gt 0 a with ha | ha
  · have hm := hup ha
    obtain ⟨a, rfl⟩ := Int.eq_ofNat_of_zero_le ha
    rcases le_or_gt m 0 with hneg | hpos
    · calc (10 : ℚ) ^ m ≤ 1 := zpow_le_one_of_nonpos₀ (by norm_num) hneg
        _ ≤ 2 ^ (a : ℤ) := one_le_zpow₀ (by norm_num) ha
    · obtain ⟨m, rfl⟩ := Int.eq_ofNat_of_zero_le hpos.le
      rw [zpow_natCast, zpow_natCast, ← pow_le_pow_iff_left₀ (by positivity) (by positivity)
        (show 10 ≠ 0 by norm_num), ← pow_mul, ← pow_mul]
      calc (10 : ℚ) ^ (m * 10) ≤ 10 ^ (3 * a) := pow_le_pow_right₀ (by norm_num) (by omega)
        _ = (10 ^ 3) ^ a := pow_mul ..
        _ ≤ (2 ^ 10) ^ a := pow_le_pow_left₀ (by norm_num) (by norm_num) a
        _ = 2 ^ (a * 10) := by rw [← pow_mul, mul_comm]
  · have hm := hdown ha
    obtain ⟨b, rfl⟩ : ∃ b : ℕ, a = -b := ⟨(-a).toNat, by omega⟩
    obtain ⟨k, rfl⟩ : ∃ k : ℕ, m = -k := ⟨(-m).toNat, by omega⟩
    rw [zpow_neg, zpow_neg, zpow_natCast, zpow_natCast, inv_le_inv₀ (by positivity) (by positivity),
      ← pow_le_pow_iff_left₀ (by positivity) (by positivity) (show 93 ≠ 0 by norm_num), ← pow_mul,
      ← pow_mul]
    calc (2 : ℚ) ^ (b * 93) = (2 ^ 93) ^ b := by rw [← pow_mul, mul_comm]
      _ ≤ (10 ^ 28) ^ b := pow_le_pow_left₀ (by norm_num) (by norm_num) b
      _ = 10 ^ (28 * b) := (pow_mul ..).symm
      _ ≤ 10 ^ (k * 93) := pow_le_pow_right₀ (by norm_num) (by omega)

section Point

variable {num den : ℕ}

/-- The test that moves the point to the right. -/
theorem reached_iff (hden : 0 < den) (point : ℤ) :
    (if point ≥ 0 then num ≥ den * Nat.pow 10 point.toNat else num * Nat.pow 10 (-point).toNat ≥ den) ↔
      (10 : ℚ) ^ point ≤ (num : ℚ) / den := by
  have hless := lt_zpow_iff (by norm_num : 0 < 10) hden num point 0
  rw [Nat.cast_ofNat, Nat.cast_zero, add_zero] at hless
  rw [← not_lt, hless]
  by_cases hpoint : point ≥ 0 <;> simp [hpoint]

theorem up_spec (hden : 0 < den) (fuel : ℕ) {point : ℤ} (h : (10 : ℚ) ^ (point - 1) ≤ (num : ℚ) / den) :
    (10 : ℚ) ^ (pointOf.up num den fuel point - 1) ≤ (num : ℚ) / den := by
  induction fuel generalizing point with
  | zero => exact h
  | succ fuel ih =>
    unfold pointOf.up
    dsimp only
    by_cases hreached : (10 : ℚ) ^ point ≤ (num : ℚ) / den
    · rw [if_pos ((reached_iff hden point).mpr hreached)]
      exact ih (by rwa [add_sub_cancel_right])
    · rw [if_neg fun h => hreached ((reached_iff hden point).mp h)]
      exact h

/-- The point is not too far to the right, as far as double precision goes. -/
theorem pointOf_spec (hnum : 0 < num) (hden : 0 < den)
    (hsize : |(num.log2 : ℤ) - den.log2| ≤ 1100) :
    (10 : ℚ) ^ (pointOf num den - 1) ≤ (num : ℚ) / den := by
  obtain ⟨hlow, -⟩ := quotient_bounds hnum hden
  rw [abs_le] at hsize
  refine up_spec hden 5 (le_trans (zpow_ten_le_zpow_two (a := (num.log2 : ℤ) - den.log2 - 1)
    (fun _ => ?_) fun _ => ?_) hlow.le) <;> omega

end Point

theorem quotientOf_spec {significand : ℕ} (hpos : 0 < significand) (e : ℤ) :
    0 < (quotientOf significand e).1 ∧ 0 < (quotientOf significand e).2 ∧
      ((quotientOf significand e).1 : ℚ) / (quotientOf significand e).2 = significand * 2 ^ e := by
  unfold quotientOf
  split
  · next he =>
    obtain ⟨n, rfl⟩ := Int.eq_ofNat_of_zero_le he
    exact ⟨Nat.mul_pos hpos (Nat.pow_pos two_pos), one_pos, by simp⟩
  · next he =>
    obtain ⟨n, rfl⟩ : ∃ n : ℕ, e = -n := ⟨(-e).toNat, by omega⟩
    exact ⟨hpos, Nat.pow_pos two_pos, by simp [div_eq_mul_inv]⟩

theorem inUnits_below (num den : ℕ) (unit : ℤ) :
    (inUnits num den unit).1 = ⌊(num : ℚ) / den / 10 ^ unit⌋₊ := by
  have hscaled := div_zpow_eq 10 num den unit
  rw [Nat.cast_ofNat] at hscaled
  rw [hscaled]
  unfold inUnits
  by_cases hunit : unit ≥ 0
  · simp only [hunit, if_true]
    exact (Nat.floor_div_eq_div _ _).symm
  · simp only [hunit, if_false]
    exact (Nat.floor_div_eq_div _ _).symm

theorem decimalAt_eq_some_imp {x : Binary64} {num den digits : ℕ} {unit : ℤ}
    (h : decimalAt x num den unit = some digits) : ofDecimal false digits unit = x := by
  simpa using List.find?_some h

/-- A decimal no more than half a unit away from a number reads back to it if the unit is small enough. -/
theorem ofDecimal_of_near {significand digits : ℕ} {e unit : ℤ}
    (hcanonical : (finite false significand e).Canonical) (hpos : 0 < significand)
    (hunit : (10 : ℚ) ^ (unit + 16) ≤ significand * 2 ^ e)
    (hnear : |(digits : ℚ) - significand * 2 ^ e / 10 ^ unit| ≤ 1 / 2) :
    ofDecimal false digits unit = .finite false significand e := by
  have hten := zpow_ten_pos unit
  have hdistance : (digits : ℚ) * 10 ^ unit - significand * 2 ^ e =
      (digits - significand * 2 ^ e / 10 ^ unit) * 10 ^ unit := by
    rw [sub_mul, div_mul_cancel₀ _ hten.ne']
  rw [ofDecimal_eq]
  refine nearest_eq false hcanonical hpos ?_
  calc |(digits : ℚ) * 10 ^ unit - significand * 2 ^ e|
      = |(digits : ℚ) - significand * 2 ^ e / 10 ^ unit| * 10 ^ unit := by
        rw [hdistance, abs_mul, abs_of_pos hten]
    _ ≤ 1 / 2 * 10 ^ unit := mul_le_mul_of_nonneg_right hnear hten.le
    _ < 10 ^ (unit + 16) / 2 ^ 54 := by
        rw [zpow_add₀ (by norm_num)]
        norm_num
        linarith
    _ ≤ significand * 2 ^ e / 2 ^ 54 := div_le_div_of_nonneg_right hunit (by positivity)

/-- Of a value rounded down and the next whole number, one is no more than a half away. -/
theorem near_floor {r : ℚ} (hr : 0 ≤ r) :
    ∃ n : ℕ, (n = ⌊r⌋₊ ∨ n = ⌊r⌋₊ + 1) ∧ |(n : ℚ) - r| ≤ 1 / 2 := by
  have hlow := Nat.floor_le hr
  have hhigh := Nat.lt_floor_add_one r
  rcases le_total (r - ⌊r⌋₊) (1 / 2) with hdown | hup
  · refine ⟨_, Or.inl rfl, ?_⟩
    rw [abs_le]
    constructor <;> linarith
  · refine ⟨_, Or.inr rfl, ?_⟩
    rw [abs_le]
    push_cast
    constructor <;> linarith

/-- One of the two decimals next to a number reads back to it if the unit is small enough. -/
theorem decimalAt_isSome {significand : ℕ} {e unit : ℤ} {num den : ℕ}
    (hcanonical : (finite false significand e).Canonical) (hpos : 0 < significand)
    (hvalue : (num : ℚ) / den = significand * 2 ^ e)
    (hunit : (10 : ℚ) ^ (unit + 16) ≤ significand * 2 ^ e) :
    (decimalAt (.finite false significand e) num den unit).isSome := by
  have hcount : (0 : ℚ) ≤ significand * 2 ^ e / 10 ^ unit :=
    div_nonneg (mul_nonneg (Nat.cast_nonneg significand) (zpow_two_pos e).le) (zpow_ten_pos unit).le
  obtain ⟨digits, hcandidate, hnear⟩ := near_floor hcount
  rw [← hvalue, ← inUnits_below] at hcandidate
  have hreads := ofDecimal_of_near hcanonical hpos hunit hnear
  unfold decimalAt
  rw [List.find?_isSome]
  refine ⟨digits, ?_, by simpa using hreads⟩
  split <;> simp [hcandidate, or_comm]

theorem searchDigits_reads {x : Binary64} {num den : ℕ} {point : ℤ} (fuel count : ℕ)
    (h : ∃ more < fuel, (decimalAt x num den (point - (count + more : ℕ))).isSome) :
    ofDecimal false (searchDigits x num den point count fuel).1
      (searchDigits x num den point count fuel).2 = x := by
  induction fuel generalizing count with
  | zero =>
    obtain ⟨more, hmore, -⟩ := h
    omega
  | succ fuel ih =>
    obtain ⟨more, hmore, hsome⟩ := h
    unfold searchDigits
    dsimp only
    split
    · next digits hdigits => exact decimalAt_eq_some_imp hdigits
    · next hnone =>
      obtain ⟨before, rfl⟩ : ∃ before, more = before + 1 := by
        refine Nat.exists_eq_succ_of_ne_zero ?_
        rintro rfl
        simp [hnone] at hsome
      refine ih (count + 1) ⟨before, by omega, ?_⟩
      rwa [Nat.add_right_comm, Nat.add_assoc]

/-- The quotient of a number is of a size whose point is found. -/
theorem log_quotientOf {significand : ℕ} {e : ℤ} (hcanonical : (finite false significand e).Canonical)
    (hpos : 0 < significand) :
    |((quotientOf significand e).1.log2 : ℤ) - (quotientOf significand e).2.log2| ≤ 1100 := by
  obtain ⟨hdigits, hleast, hgreatest, -⟩ := hcanonical
  obtain ⟨hnum, hden, hvalue⟩ := quotientOf_spec hpos e
  obtain ⟨hlow, hhigh⟩ := quotient_bounds hnum hden
  rw [hvalue] at hlow hhigh
  have hsmall : (2 : ℚ) ^ e ≤ significand * 2 ^ e :=
    le_mul_of_one_le_left (zpow_two_pos e).le (by exact_mod_cast hpos)
  have hlarge : (significand : ℚ) * 2 ^ e < 2 ^ (e + 53) := by
    rw [add_comm, zpow_add₀ (by norm_num)]
    exact mul_lt_mul_of_pos_right (by exact_mod_cast hdigits) (zpow_two_pos e)
  have hover := (zpow_lt_zpow_iff_right₀ (by norm_num : (1 : ℚ) < 2)).mp (hlow.trans hlarge)
  have hunder := (zpow_lt_zpow_iff_right₀ (by norm_num : (1 : ℚ) < 2)).mp (hsmall.trans_lt hhigh)
  unfold leastExponent at hleast
  unfold greatestExponent at hgreatest
  rw [abs_le]
  omega

/-- The shortest decimal of a number reads back to it. -/
theorem ofDecimal_shortest {significand : ℕ} {e : ℤ}
    (hcanonical : (finite false significand e).Canonical) (hpos : 0 < significand) :
    ofDecimal false (shortest significand e).1 (shortest significand e).2 =
      .finite false significand e := by
  obtain ⟨hnum, hden, hvalue⟩ := quotientOf_spec hpos e
  have hpoint := pointOf_spec hnum hden (log_quotientOf hcanonical hpos)
  refine searchDigits_reads 17 1 ⟨16, by norm_num, decimalAt_isSome hcanonical hpos hvalue ?_⟩
  rw [← hvalue]
  refine le_trans (zpow_le_zpow_right₀ (by norm_num) ?_) hpoint
  show pointOf (quotientOf significand e).1 (quotientOf significand e).2 - (1 + 16 : ℕ) + 16 ≤ _
  push_cast
  omega

end FactIntake.Binary64
