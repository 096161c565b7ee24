/-!
Double-precision numbers, as exact values: a significand times a power of two, the infinities and
the value that is no number. A decimal is read by rounding its exact value to the nearest number,
a tie going to the even significand.
-/

namespace FactIntake

inductive Binary64
  | nan
  | infinite (negative : Bool)
  | finite (negative : Bool) (significand : Nat) (exponent : Int)
deriving DecidableEq, Repr, Inhabited

namespace Binary64

def leastExponent : Int := -1074
def greatestExponent : Int := 971

def zero (negative : Bool) : Binary64 := .finite negative 0 leastExponent

/-- The quotient of two numbers, a rest above one half rounded up, a rest of one half to even. -/
def roundDiv (num den : Nat) : Nat :=
  let quotient := num / den
  let rest := 2 * (num % den)
  if rest > den || (rest == den && quotient % 2 == 1) then quotient + 1 else quotient

/-- `num / den / 2 ^ e` as a quotient of natural numbers, rounded. -/
def roundAt (num den : Nat) (e : Int) : Nat :=
  if e ≥ 0 then roundDiv num (den * Nat.pow 2 e.toNat)
  else roundDiv (num * Nat.pow 2 (-e).toNat) den

/-- The exponent at which the quotient has a significand of 53 binary digits, or the least one. -/
def exponentFor (num den : Nat) : Int :=
  let guess : Int := (num.log2 : Int) - den.log2 - 52
  let short := if guess ≥ 0 then num < den * Nat.pow 2 (guess.toNat + 52)
    else num * Nat.pow 2 (-guess).toNat < den * Nat.pow 2 52
  max leastExponent (if short then guess - 1 else guess)

/-- The number nearest to `num / den`. -/
def ofQuotient (negative : Bool) (num den : Nat) : Binary64 :=
  if num == 0 then zero negative
  else
    let e := exponentFor num den
    let significand := roundAt num den e
    let (significand, e) :=
      if significand == Nat.pow 2 53 then (Nat.pow 2 52, e + 1) else (significand, e)
    if e > greatestExponent then .infinite negative else .finite negative significand e

/-- Decimals from `10 ^ 400` on are read as infinite, those below `10 ^ -400` as zero, before any
power is computed. -/
def magnitudeLimit : Int := 400

def digitCount (n : Nat) : Nat := (Nat.toDigits 10 n).length

/-- The number nearest to `digits * 10 ^ exponent`. -/
def ofDecimal (negative : Bool) (digits : Nat) (exponent : Int) : Binary64 :=
  if digits == 0 then zero negative
  else
    let magnitude := (digitCount digits : Int) + exponent
    if magnitude > magnitudeLimit then .infinite negative
    else if magnitude < -magnitudeLimit then zero negative
    else if exponent ≥ 0 then ofQuotient negative (digits * Nat.pow 10 exponent.toNat) 1
    else ofQuotient negative digits (Nat.pow 10 (-exponent).toNat)

/-- The exact value of a finite number without its sign, as a quotient. -/
def quotientOf (significand : Nat) (exponent : Int) : Nat × Nat :=
  if exponent ≥ 0 then (significand * Nat.pow 2 exponent.toNat, 1)
  else (significand, Nat.pow 2 (-exponent).toNat)

end Binary64

end FactIntake
