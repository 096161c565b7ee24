import FactIntake.Decimal.Binary64
import Mathlib.Algebra.Order.Floor.Semifield
import Mathlib.Data.Int.Log
import Mathlib.Data.Rat.Floor
import Mathlib.Tactic.FieldSimp
import Mathlib.Tactic.Linarith
import Mathlib.Tactic.Positivity
import Mathlib.Tactic.Ring

/-!
What the rounding of decimals computes. The number nearest to a quotient depends on its value only: the
value is counted in units of a power of two, which gives it 53 binary digits or is the least one, and
what is counted is rounded to a whole number, a half going to the even one. Decimals that are too large
or too small to be computed have the number that their value would be rounded to. A value that is close
enough to a number is rounded to it.
-/

namespace FactIntake.Binary64

/-- The whole number nearest to a value, the even one of two. -/
def roundHalfEven (r : ℚ) : ℕ :=
  let below := ⌊r⌋₊
  if r - below > 1 / 2 ∨ r - below = 1 / 2 ∧ below % 2 = 1 then below + 1 else below

/-- The exponent of the unit that a value is counted in. -/
def gridExponent (r : ℚ) : ℤ := max leastExponent (Int.log 2 r - 52)

/-- The number that a count of units makes; a count of 53 digits and one is a carry. -/
def ofGrid (negative : Bool) (significand : ℕ) (exponent : ℤ) : Binary64 :=
  let (significand, exponent) :=
    if significand = 2 ^ 53 then (2 ^ 52, exponent + 1) else (significand, exponent)
  if exponent > greatestExponent then .infinite negative else .finite negative significand exponent

/-- The number nearest to a value. -/
def nearest (negative : Bool) (r : ℚ) : Binary64 :=
  if r = 0 then zero negative
  else ofGrid negative (roundHalfEven (r / 2 ^ gridExponent r)) (gridExponent r)

theorem div_zpow_eq (base num den : ℕ) (e : ℤ) :
    (num : ℚ) / den / (base : ℚ) ^ e =
      if e ≥ 0 then (num : ℚ) / (den * Nat.pow base e.toNat : ℕ)
      else (num * Nat.pow base (-e).toNat : ℕ) / (den : ℚ) := by
  split
  · next he =>
    obtain ⟨n, rfl⟩ := Int.eq_ofNat_of_zero_le he
    simp [div_div]
  · next he =>
    obtain ⟨n, rfl⟩ : ∃ n : ℕ, e = -n := ⟨(-e).toNat, by omega⟩
    simp [div_mul_eq_mul_div]

theorem lt_zpow_iff {base den : ℕ} (hbase : 0 < base) (hden : 0 < den) (num : ℕ) (e : ℤ) (more : ℕ) :
    (num : ℚ) / den < (base : ℚ) ^ (e + more) ↔
      if e ≥ 0 then num < den * Nat.pow base (e.toNat + more)
      else num * Nat.pow base (-e).toNat < den * Nat.pow base more := by
  have hden' : (0 : ℚ) < den := by exact_mod_cast hden
  have hbase' : (0 : ℚ) < base := by exact_mod_cast hbase
  rw [div_lt_iff₀ hden', mul_comm]
  split
  · next he =>
    obtain ⟨n, rfl⟩ := Int.eq_ofNat_of_zero_le he
    rw [← Int.natCast_add, zpow_natCast, Int.toNat_natCast, Nat.pow_eq]
    exact_mod_cast Iff.rfl
  · next he =>
    obtain ⟨n, rfl⟩ : ∃ n : ℕ, e = -n := ⟨(-e).toNat, by omega⟩
    rw [zpow_add₀ hbase'.ne', zpow_neg, zpow_natCast, zpow_natCast, neg_neg, Int.toNat_natCast,
      Nat.pow_eq, Nat.pow_eq, mul_left_comm, ← div_eq_inv_mul, lt_div_iff₀ (pow_pos hbase' n)]
    exact_mod_cast Iff.rfl

theorem roundDiv_eq (num : ℕ) {den : ℕ} (hden : 0 < den) :
    roundDiv num den = roundHalfEven ((num : ℚ) / den) := by
  have hpos : (0 : ℚ) < den := by exact_mod_cast hden
  have hrest : (num : ℚ) / den - (num / den : ℕ) = (num % den : ℕ) / (den : ℚ) := by
    have hsplit : (num : ℚ) = den * (num / den : ℕ) + (num % den : ℕ) := by
      exact_mod_cast (Nat.div_add_mod num den).symm
    field_simp
    linarith
  have habove : (num % den : ℕ) / (den : ℚ) > 1 / 2 ↔ 2 * (num % den) > den := by
    rw [gt_iff_lt, div_lt_div_iff₀ (by norm_num) hpos, one_mul]
    constructor
    · intro h
      have h' : ((den : ℕ) : ℚ) < (num % den * 2 : ℕ) := by simpa using h
      have := Nat.cast_lt.mp h'
      omega
    · intro h
      have h' : den < num % den * 2 := by omega
      exact_mod_cast h'
  have hhalf : (num % den : ℕ) / (den : ℚ) = 1 / 2 ↔ 2 * (num % den) = den := by
    rw [div_eq_div_iff hpos.ne' (by norm_num), one_mul]
    constructor
    · intro h
      have h' : ((num % den * 2 : ℕ) : ℚ) = (den : ℕ) := by simpa using h
      have := Nat.cast_injective h'
      omega
    · intro h
      have h' : num % den * 2 = den := by omega
      exact_mod_cast h'
  unfold roundDiv roundHalfEven
  simp only [Nat.floor_div_eq_div, hrest, habove, hhalf, Bool.or_eq_true, Bool.and_eq_true,
    decide_eq_true_eq, beq_iff_eq]

theorem roundAt_eq (num : ℕ) {den : ℕ} (hden : 0 < den) (e : ℤ) :
    roundAt num den e = roundHalfEven ((num : ℚ) / den / 2 ^ e) := by
  have hscaled := div_zpow_eq 2 num den e
  rw [Nat.cast_ofNat] at hscaled
  unfold roundAt
  rw [hscaled]
  split
  · exact roundDiv_eq num (Nat.mul_pos hden (Nat.pow_pos (by norm_num)))
  · exact roundDiv_eq _ hden

theorem zpow_two_pos (e : ℤ) : (0 : ℚ) < 2 ^ e := zpow_pos (by norm_num) e

/-- The binary digits of a quotient, up to one, are those of its parts. -/
theorem quotient_bounds {num den : ℕ} (hnum : 0 < num) (hden : 0 < den) :
    (2 : ℚ) ^ ((num.log2 : ℤ) - den.log2 - 1) < (num : ℚ) / den ∧
      (num : ℚ) / den < 2 ^ ((num.log2 : ℤ) - den.log2 + 1) := by
  have hden' : (0 : ℚ) < den := by exact_mod_cast hden
  have hlowNum : (2 : ℚ) ^ (num.log2 : ℤ) ≤ num := by
    rw [zpow_natCast]
    exact_mod_cast Nat.log2_self_le hnum.ne'
  have hhighNum : (num : ℚ) < 2 ^ ((num.log2 : ℤ) + 1) := by
    have h : num < 2 ^ (num.log2 + 1) := Nat.lt_log2_self
    exact_mod_cast h
  have hlowDen : (2 : ℚ) ^ (den.log2 : ℤ) ≤ den := by
    rw [zpow_natCast]
    exact_mod_cast Nat.log2_self_le hden.ne'
  have hhighDen : (den : ℚ) < 2 ^ ((den.log2 : ℤ) + 1) := by
    have h : den < 2 ^ (den.log2 + 1) := Nat.lt_log2_self
    exact_mod_cast h
  constructor
  · rw [lt_div_iff₀ hden']
    calc (2 : ℚ) ^ ((num.log2 : ℤ) - den.log2 - 1) * den
        < 2 ^ ((num.log2 : ℤ) - den.log2 - 1) * 2 ^ ((den.log2 : ℤ) + 1) :=
          mul_lt_mul_of_pos_left hhighDen (zpow_two_pos _)
      _ = 2 ^ (num.log2 : ℤ) := by
          rw [← zpow_add₀ (by norm_num)]
          congr 1
          ring
      _ ≤ num := hlowNum
  · rw [div_lt_iff₀ hden']
    calc (num : ℚ) < 2 ^ ((num.log2 : ℤ) + 1) := hhighNum
      _ = 2 ^ ((num.log2 : ℤ) - den.log2 + 1) * 2 ^ (den.log2 : ℤ) := by
          rw [← zpow_add₀ (by norm_num)]
          congr 1
          ring
      _ ≤ 2 ^ ((num.log2 : ℤ) - den.log2 + 1) * den :=
          mul_le_mul_of_nonneg_left hlowDen (zpow_two_pos _).le

/-- Bounds that fix the whole part of a binary logarithm. -/
theorem log_two_eq {r : ℚ} (hr : 0 < r) {e : ℤ} (hlow : (2 : ℚ) ^ e ≤ r) (hhigh : r < 2 ^ (e + 1)) :
    Int.log 2 r = e := by
  have hle : e ≤ Int.log 2 r := (Int.zpow_le_iff_le_log (by norm_num) hr).mp (by exact_mod_cast hlow)
  have hlt : Int.log 2 r < e + 1 := (Int.lt_zpow_iff_log_lt (by norm_num) hr).mp (by exact_mod_cast hhigh)
  omega

theorem exponentFor_eq {num den : ℕ} (hnum : 0 < num) (hden : 0 < den) :
    exponentFor num den = gridExponent ((num : ℚ) / den) := by
  have hr : (0 : ℚ) < (num : ℚ) / den := by positivity
  obtain ⟨hlow, hhigh⟩ := quotient_bounds hnum hden
  unfold exponentFor gridExponent
  generalize hguess : (num.log2 : ℤ) - den.log2 - 52 = guess
  have hlog : (num.log2 : ℤ) - den.log2 = guess + 52 := by omega
  rw [hlog] at hlow hhigh
  have hshort := lt_zpow_iff two_pos hden num guess 52
  rw [Nat.cast_ofNat, Nat.cast_ofNat] at hshort
  dsimp only
  by_cases hlt : (num : ℚ) / den < 2 ^ (guess + 52)
  · rw [log_two_eq hr hlow.le (by simpa using hlt), if_pos (hshort.mp hlt)]
    congr 1
    omega
  · rw [log_two_eq hr (not_lt.mp hlt) hhigh, if_neg (fun h => hlt (hshort.mpr h))]
    congr 1
    omega

/-- Rounding a quotient is rounding its value. -/
theorem ofQuotient_eq (negative : Bool) (num : ℕ) {den : ℕ} (hden : 0 < den) :
    ofQuotient negative num den = nearest negative ((num : ℚ) / den) := by
  have hden' : (den : ℚ) ≠ 0 := by exact_mod_cast hden.ne'
  unfold ofQuotient nearest
  by_cases hnum : num = 0
  · simp [hnum]
  · have hvalue : (num : ℚ) / den ≠ 0 := div_ne_zero (by exact_mod_cast hnum) hden'
    simp only [beq_iff_eq, hnum, if_false, hvalue, exponentFor_eq (Nat.pos_of_ne_zero hnum) hden,
      roundAt_eq num hden, ofGrid]
    rfl

theorem ofGrid_of_positive {negative : Bool} {significand count : ℕ} {exponent unit : ℤ}
    (h : ofGrid false count unit = .finite false significand exponent) :
    ofGrid negative count unit = .finite negative significand exponent := by
  unfold ofGrid at h ⊢
  generalize (if count = 2 ^ 53 then (2 ^ 52, unit + 1) else (count, unit)) = carried at h ⊢
  obtain ⟨count, unit⟩ := carried
  dsimp only at h ⊢
  by_cases hlarge : unit > greatestExponent
  · rw [if_pos hlarge] at h
    cases h
  · rw [if_neg hlarge] at h ⊢
    obtain ⟨-, rfl, rfl⟩ := Binary64.finite.inj h
    rfl

/-- The sign has no part in rounding. -/
theorem nearest_of_positive {negative : Bool} {significand : ℕ} {exponent : ℤ} {r : ℚ}
    (h : nearest false r = .finite false significand exponent) :
    nearest negative r = .finite negative significand exponent := by
  unfold nearest at h ⊢
  by_cases hzero : r = 0
  · rw [if_pos hzero] at h ⊢
    obtain ⟨-, rfl, rfl⟩ := Binary64.finite.inj h
    rfl
  · rw [if_neg hzero] at h ⊢
    exact ofGrid_of_positive h

theorem roundHalfEven_mem {r : ℚ} {low high : ℕ} (hlow : (low : ℚ) ≤ r) (hhigh : r < high) :
    low ≤ roundHalfEven r ∧ roundHalfEven r ≤ high := by
  have hnonneg : 0 ≤ r := le_trans (Nat.cast_nonneg low) hlow
  have hbelow : low ≤ ⌊r⌋₊ := Nat.le_floor hlow
  have habove : ⌊r⌋₊ < high := (Nat.floor_lt hnonneg).mpr hhigh
  unfold roundHalfEven
  dsimp only
  split <;> omega

/-- A value less than a half away from a whole number is rounded to it. -/
theorem roundHalfEven_eq {r : ℚ} {n : ℕ} (hr : 0 ≤ r) (h : |r - n| < 1 / 2) : roundHalfEven r = n := by
  obtain ⟨hlow, hhigh⟩ := abs_lt.mp h
  have hfloor := Nat.floor_le hr
  have hceil := Nat.lt_floor_add_one r
  unfold roundHalfEven
  dsimp only
  by_cases hcase : (n : ℚ) ≤ r
  · have hbelow : ⌊r⌋₊ = n := (Nat.floor_eq_iff hr).mpr ⟨hcase, by linarith⟩
    rw [if_neg, hbelow]
    rw [hbelow]
    rintro (habove | ⟨hhalf, -⟩) <;> linarith
  · have hpos : 0 < n := by
      rcases Nat.eq_zero_or_pos n with rfl | hpos
      · exact absurd (by simpa using hr) hcase
      · exact hpos
    have hbelow : ⌊r⌋₊ = n - 1 := by
      refine (Nat.floor_eq_iff hr).mpr ?_
      rw [Nat.cast_sub hpos]
      push_cast
      constructor <;> linarith
    rw [if_pos, hbelow]
    · omega
    · rw [hbelow, Nat.cast_sub hpos]
      left
      push_cast
      linarith

/-- A number as rounding gives it: its significand has 53 digits, or its exponent is the least. -/
def Canonical : Binary64 → Prop
  | .finite _ significand exponent =>
    significand < 2 ^ 53 ∧ leastExponent ≤ exponent ∧ exponent ≤ greatestExponent ∧
      (2 ^ 52 ≤ significand ∨ exponent = leastExponent)
  | _ => True

theorem canonical_zero (negative : Bool) : (zero negative).Canonical := by
  simp [zero, Canonical, leastExponent, greatestExponent]

theorem gridExponent_ge (r : ℚ) : leastExponent ≤ gridExponent r := le_max_left ..

/-- Counted in its units a value has 53 digits, or its unit is the least. -/
theorem counted_mem {r : ℚ} (hr : 0 < r) :
    r / 2 ^ gridExponent r < 2 ^ 53 ∧
      (2 ^ 52 ≤ r / 2 ^ gridExponent r ∨ gridExponent r = leastExponent) := by
  have hlow : (2 : ℚ) ^ Int.log 2 r ≤ r := by exact_mod_cast Int.zpow_log_le_self (by norm_num) hr
  have hhigh : r < (2 : ℚ) ^ (Int.log 2 r + 1) := by
    exact_mod_cast Int.lt_zpow_succ_log_self (b := 2) (by norm_num) r
  constructor
  · rw [div_lt_iff₀ (zpow_two_pos _), ← zpow_natCast, ← zpow_add₀ (by norm_num)]
    refine hhigh.trans_le (zpow_le_zpow_right₀ (by norm_num) ?_)
    have := le_max_right leastExponent (Int.log 2 r - 52)
    unfold gridExponent
    push_cast
    omega
  · rcases max_choice leastExponent (Int.log 2 r - 52) with hleast | hlog
    · exact Or.inr hleast
    · left
      unfold gridExponent
      rw [hlog, le_div_iff₀ (zpow_two_pos _), ← zpow_natCast, ← zpow_add₀ (by norm_num)]
      refine le_trans (zpow_le_zpow_right₀ (by norm_num) ?_) hlow
      push_cast
      omega

theorem canonical_nearest (negative : Bool) {r : ℚ} (hr : 0 ≤ r) : (nearest negative r).Canonical := by
  unfold nearest
  split
  · exact canonical_zero negative
  · next hne =>
    have hpos : 0 < r := lt_of_le_of_ne hr (Ne.symm hne)
    obtain ⟨hhigh, hlow⟩ := counted_mem hpos
    have hge := gridExponent_ge r
    have hnonneg : 0 ≤ r / 2 ^ gridExponent r := (div_pos hpos (zpow_two_pos _)).le
    have hhigh' : r / 2 ^ gridExponent r < (2 ^ 53 : ℕ) := by exact_mod_cast hhigh
    have hle : roundHalfEven (r / 2 ^ gridExponent r) ≤ 2 ^ 53 :=
      (roundHalfEven_mem (Nat.cast_zero.trans_le hnonneg) hhigh').2
    have hdigits : 2 ^ 52 ≤ roundHalfEven (r / 2 ^ gridExponent r) ∨ gridExponent r = leastExponent :=
      hlow.imp_left fun hlow => (roundHalfEven_mem (by exact_mod_cast hlow) hhigh').1
    unfold ofGrid
    by_cases hcarry : roundHalfEven (r / 2 ^ gridExponent r) = 2 ^ 53
    · simp only [hcarry, if_true]
      split
      · trivial
      · next hexponent => exact ⟨by norm_num, by omega, by omega, Or.inl le_rfl⟩
    · simp only [hcarry, if_false]
      split
      · trivial
      · next hexponent => exact ⟨by omega, hge, by omega, hdigits⟩

theorem gridExponent_eq {r : ℚ} (hr : 0 < r) {e : ℤ} (he : leastExponent ≤ e)
    (hhigh : r < 2 ^ (e + 53)) (hlow : (2 : ℚ) ^ (e + 52) ≤ r ∨ e = leastExponent) :
    gridExponent r = e := by
  have hlt : Int.log 2 r < e + 53 := (Int.lt_zpow_iff_log_lt (by norm_num) hr).mp (by exact_mod_cast hhigh)
  unfold gridExponent
  rcases hlow with hlow | rfl
  · have hle : e + 52 ≤ Int.log 2 r := (Int.zpow_le_iff_le_log (by norm_num) hr).mp (by exact_mod_cast hlow)
    omega
  · omega

section Counted

variable {count : ℚ} {e : ℤ}

theorem gridExponent_of_count (hcount : 0 < count) (he : leastExponent ≤ e) (hhigh : count < 2 ^ 53)
    (hlow : 2 ^ 52 ≤ count ∨ e = leastExponent) : gridExponent (count * 2 ^ e) = e := by
  have hunit := zpow_two_pos e
  refine gridExponent_eq (mul_pos hcount hunit) he ?_ (hlow.imp_left fun hlow => ?_)
  · rw [add_comm e, zpow_add₀ (by norm_num)]
    exact mul_lt_mul_of_pos_right (by exact_mod_cast hhigh) hunit
  · rw [add_comm e, zpow_add₀ (by norm_num)]
    exact mul_le_mul_of_nonneg_right (by exact_mod_cast hlow) hunit.le

/-- A value that is counted in its own units is rounded by the count. -/
theorem nearest_of_count (negative : Bool) (hcount : 0 < count) (he : leastExponent ≤ e)
    (hhigh : count < 2 ^ 53) (hlow : 2 ^ 52 ≤ count ∨ e = leastExponent) :
    nearest negative (count * 2 ^ e) = ofGrid negative (roundHalfEven count) e := by
  have hunit := zpow_two_pos e
  unfold nearest
  rw [if_neg (mul_pos hcount hunit).ne', gridExponent_of_count hcount he hhigh hlow,
    mul_div_cancel_right₀ count hunit.ne']

end Counted

/-- A value is rounded to a number that is less than `2 ^ -54` of itself away. -/
theorem nearest_eq (negative : Bool) {significand : ℕ} {e : ℤ} {r : ℚ}
    (hcanonical : (finite negative significand e).Canonical) (hpos : 0 < significand)
    (hclose : |r - significand * 2 ^ e| < significand * 2 ^ e / 2 ^ 54) :
    nearest negative r = .finite negative significand e := by
  obtain ⟨hdigits, hleast, hgreatest, hnormal⟩ := hcanonical
  have hunit := zpow_two_pos e
  have hpos' : (1 : ℚ) ≤ significand := by exact_mod_cast hpos
  have hdigits' : (significand : ℚ) ≤ 2 ^ 53 - 1 := by
    have h : significand + 1 ≤ 2 ^ 53 := hdigits
    have h' : (significand : ℚ) + 1 ≤ 2 ^ 53 := by exact_mod_cast h
    linarith
  -- Counted in units of the number, the value is less than a half away from its significand.
  obtain ⟨count, rfl⟩ : ∃ count : ℚ, r = count * 2 ^ e := ⟨r / 2 ^ e, (div_mul_cancel₀ r hunit.ne').symm⟩
  have hnear : |count - significand| < significand / 2 ^ 54 := by
    rw [← sub_mul, abs_mul, abs_of_pos hunit, mul_div_right_comm] at hclose
    exact lt_of_mul_lt_mul_right hclose hunit.le
  have hhalf : |count - significand| < 1 / 2 := by
    refine hnear.trans ?_
    rw [div_lt_div_iff₀ (by norm_num) (by norm_num)]
    linarith
  obtain ⟨hbelow, habove⟩ := abs_lt.mp hnear
  have hcount : 0 < count := by linarith
  by_cases hbinade : (2 : ℚ) ^ 52 ≤ count ∨ e = leastExponent
  · rw [nearest_of_count negative hcount hleast (by linarith) hbinade, roundHalfEven_eq hcount.le hhalf]
    simp only [ofGrid, hdigits.ne, if_false, not_lt.mpr hgreatest]
  · -- Just below the least number of its binade, the value is counted in halves of the unit.
    rw [not_or, not_le] at hbinade
    have hmin : significand = 2 ^ 52 := by
      have hge := hnormal.resolve_right hbinade.2
      have hlt : (significand : ℚ) < (2 ^ 52 + 1 : ℕ) := by
        push_cast
        linarith [(abs_lt.mp hhalf).1]
      have := Nat.cast_lt.mp hlt
      omega
    have hmin' : (significand : ℚ) = 2 ^ 52 := by exact_mod_cast hmin
    have hhalves : count * 2 ^ e = 2 * count * 2 ^ (e - 1) := by
      rw [zpow_sub_one₀ (by norm_num)]
      ring
    have hcarry : roundHalfEven (2 * count) = 2 ^ 53 := by
      refine roundHalfEven_eq (by linarith) ?_
      rw [abs_lt]
      push_cast
      constructor <;> linarith
    rw [hhalves, nearest_of_count negative (by linarith) (by omega) (by linarith) (Or.inl (by linarith)),
      hcarry]
    simp only [ofGrid, if_true, sub_add_cancel, gt_iff_lt, not_lt.mpr hgreatest, if_false, hmin]

theorem nearest_of_large (negative : Bool) {r : ℚ} (h : (2 : ℚ) ^ 1024 ≤ r) :
    nearest negative r = .infinite negative := by
  have hr : 0 < r := lt_of_lt_of_le (by positivity) h
  have hlog : 1024 ≤ Int.log 2 r := (Int.zpow_le_iff_le_log (by norm_num) hr).mp (by exact_mod_cast h)
  have hgrid : greatestExponent < gridExponent r := by
    unfold gridExponent greatestExponent
    omega
  unfold nearest ofGrid
  rw [if_neg hr.ne']
  by_cases hcarry : roundHalfEven (r / 2 ^ gridExponent r) = 2 ^ 53
  · simp only [hcarry, if_true]
    exact if_pos (by omega)
  · simp only [hcarry, if_false]
    exact if_pos hgrid

theorem nearest_of_small (negative : Bool) {r : ℚ} (hr : 0 < r) (h : r < (2 : ℚ) ^ (-1075 : ℤ)) :
    nearest negative r = zero negative := by
  have hlog : Int.log 2 r < -1075 := (Int.lt_zpow_iff_log_lt (by norm_num) hr).mp (by exact_mod_cast h)
  have hgrid : gridExponent r = leastExponent := by
    unfold gridExponent leastExponent
    omega
  have hcount : r / 2 ^ leastExponent < 1 / 2 := by
    rw [div_lt_iff₀ (zpow_two_pos _)]
    refine h.trans_le (le_of_eq ?_)
    rw [show (-1075 : ℤ) = leastExponent - 1 by rfl, zpow_sub_one₀ (by norm_num)]
    ring
  have hnone : roundHalfEven (r / 2 ^ leastExponent) = 0 := by
    have hpos : 0 < r / 2 ^ leastExponent := div_pos hr (zpow_two_pos _)
    refine roundHalfEven_eq hpos.le ?_
    rw [Nat.cast_zero, sub_zero, abs_of_pos hpos]
    exact hcount
  unfold nearest
  rw [if_neg hr.ne', hgrid, hnone]
  rfl

theorem digitCount_bounds {n : ℕ} (hn : 0 < n) :
    (10 : ℚ) ^ ((digitCount n : ℤ) - 1) ≤ n ∧ (n : ℚ) < 10 ^ (digitCount n : ℤ) := by
  have hpos : 0 < digitCount n := Nat.length_toDigits_pos
  constructor
  · rw [show (digitCount n : ℤ) - 1 = (digitCount n - 1 : ℕ) by omega, zpow_natCast]
    rcases Nat.eq_zero_or_pos (digitCount n - 1) with hzero | hmore
    · rw [hzero, pow_zero]
      exact_mod_cast hn
    · have hle : ¬ n < 10 ^ (digitCount n - 1) := by
        rw [← Nat.length_toDigits_le_iff (by norm_num) hmore]
        show ¬ digitCount n ≤ digitCount n - 1
        omega
      exact_mod_cast not_lt.mp hle
  · have hlt : n < 10 ^ digitCount n := (Nat.length_toDigits_le_iff (by norm_num) hpos).mp le_rfl
    rw [zpow_natCast]
    exact_mod_cast hlt

theorem zpow_ten_pos (e : ℤ) : (0 : ℚ) < 10 ^ e := zpow_pos (by norm_num) e

theorem two_pow_le_ten_pow : (2 : ℚ) ^ 1024 ≤ 10 ^ (400 : ℤ) := by
  calc (2 : ℚ) ^ 1024 ≤ 2 ^ (3 * 400) := pow_le_pow_right₀ (by norm_num) (by norm_num)
    _ = (2 ^ 3) ^ 400 := pow_mul ..
    _ ≤ 10 ^ 400 := pow_le_pow_left₀ (by norm_num) (by norm_num) 400
    _ = 10 ^ (400 : ℤ) := (zpow_natCast 10 400).symm

theorem ten_pow_neg_le_two_pow_neg : (10 : ℚ) ^ (-400 : ℤ) ≤ 2 ^ (-1075 : ℤ) := by
  calc (10 : ℚ) ^ (-400 : ℤ) = (10 ^ 400)⁻¹ := by rw [zpow_neg, ← zpow_natCast]; rfl
    _ ≤ (8 ^ 400)⁻¹ :=
        inv_anti₀ (by positivity) (pow_le_pow_left₀ (by norm_num) (by norm_num) 400)
    _ = (2 : ℚ) ^ (-1200 : ℤ) := by
        rw [show (8 : ℚ) = 2 ^ 3 by norm_num, ← pow_mul, ← zpow_natCast, ← zpow_neg]
        rfl
    _ ≤ 2 ^ (-1075 : ℤ) := zpow_le_zpow_right₀ (by norm_num) (by norm_num)

/-- Reading a decimal rounds its value, within and outside the limits of what is computed. -/
theorem ofDecimal_eq (negative : Bool) (digits : ℕ) (e : ℤ) :
    ofDecimal negative digits e = nearest negative (digits * 10 ^ e) := by
  unfold ofDecimal
  by_cases hzero : digits = 0
  · simp [hzero, nearest]
  have hpos : (0 : ℚ) < digits := by exact_mod_cast Nat.pos_of_ne_zero hzero
  obtain ⟨hlow, hhigh⟩ := digitCount_bounds (Nat.pos_of_ne_zero hzero)
  simp only [beq_iff_eq, hzero, if_false]
  split
  · next hlarge =>
    refine (nearest_of_large negative ?_).symm
    calc (2 : ℚ) ^ 1024 ≤ 10 ^ (400 : ℤ) := two_pow_le_ten_pow
      _ ≤ 10 ^ ((digitCount digits : ℤ) - 1 + e) := by
          refine zpow_le_zpow_right₀ (by norm_num) ?_
          unfold magnitudeLimit at hlarge
          omega
      _ = 10 ^ ((digitCount digits : ℤ) - 1) * 10 ^ e := zpow_add₀ (by norm_num) _ _
      _ ≤ digits * 10 ^ e := mul_le_mul_of_nonneg_right hlow (zpow_ten_pos e).le
  · split
    · next hsmall =>
      refine (nearest_of_small negative (mul_pos hpos (zpow_ten_pos e)) ?_).symm
      calc digits * (10 : ℚ) ^ e < 10 ^ (digitCount digits : ℤ) * 10 ^ e :=
            mul_lt_mul_of_pos_right hhigh (zpow_ten_pos e)
        _ = 10 ^ ((digitCount digits : ℤ) + e) := (zpow_add₀ (by norm_num) _ _).symm
        _ ≤ 10 ^ (-400 : ℤ) := by
            refine zpow_le_zpow_right₀ (by norm_num) ?_
            unfold magnitudeLimit at hsmall
            omega
        _ ≤ 2 ^ (-1075 : ℤ) := ten_pow_neg_le_two_pow_neg
    · split
      · next he =>
        obtain ⟨n, rfl⟩ := Int.eq_ofNat_of_zero_le he
        rw [ofQuotient_eq negative _ one_pos]
        simp
      · next he =>
        obtain ⟨n, rfl⟩ : ∃ n : ℕ, e = -n := ⟨(-e).toNat, by omega⟩
        rw [neg_neg, Int.toNat_natCast, Nat.pow_eq, ofQuotient_eq negative _ (by positivity)]
        simp [div_eq_mul_inv]

/-- Whatever is read is a number as rounding gives it. -/
theorem canonical_ofDecimal (negative : Bool) (digits : ℕ) (e : ℤ) :
    (ofDecimal negative digits e).Canonical := by
  rw [ofDecimal_eq]
  exact canonical_nearest negative (mul_nonneg (Nat.cast_nonneg digits) (zpow_ten_pos e).le)

end FactIntake.Binary64
