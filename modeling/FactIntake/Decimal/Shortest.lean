import FactIntake.Decimal.Binary64

/-!
The shortest decimal of a double-precision number: the fewest significant digits that read back to
the number, and among those the digits nearest to its value. The text is positional while the
decimal exponent lies from -4 to 15, with at least one digit after the point.
-/

namespace FactIntake.Binary64

/-- The number of digits before the point of `num / den`, zero or negative below one tenth. -/
def pointOf (num den : Nat) : Int :=
  let rec up (fuel : Nat) (point : Int) : Int :=
    match fuel with
    | 0 => point
    | fuel + 1 =>
      let tooSmall := if point ≥ 0 then num ≥ den * Nat.pow 10 point.toNat
        else num * Nat.pow 10 (-point).toNat ≥ den
      if tooSmall then up fuel (point + 1) else point
  let guess : Int := ((num.log2 : Int) - den.log2 - 1) * 30103 / 100000 - 1
  up 5 guess

/-- `num / den` counted in units of `10 ^ unit`: the whole part, and whether the rest is above,
at or below one half. -/
def inUnits (num den : Nat) (unit : Int) : Nat × Ordering :=
  let (num, den) := if unit ≥ 0 then (num, den * Nat.pow 10 unit.toNat)
    else (num * Nat.pow 10 (-unit).toNat, den)
  (num / den, compare (2 * (num % den)) den)

/-- The decimal with the given unit that reads back to `x` and is nearest to it, if there is one. -/
def decimalAt (x : Binary64) (num den : Nat) (unit : Int) : Option Nat :=
  let (below, half) := inUnits num den unit
  let upFirst := half == .gt || (half == .eq && below % 2 == 1)
  let candidates := if upFirst then [below + 1, below] else [below, below + 1]
  candidates.find? fun digits => ofDecimal false digits unit == x

def searchDigits (x : Binary64) (num den : Nat) (point : Int) (count : Nat) : Nat → Nat × Int
  | 0 => ((inUnits num den (point - count)).1, point - count)
  | fuel + 1 =>
    let unit := point - count
    match decimalAt x num den unit with
    | some digits => (digits, unit)
    | none => searchDigits x num den point (count + 1) fuel

/-- The shortest decimal `digits * 10 ^ unit` of a positive number. -/
def shortest (significand : Nat) (exponent : Int) : Nat × Int :=
  let (num, den) := quotientOf significand exponent
  searchDigits (.finite false significand exponent) num den (pointOf num den) 1 17

def dropZeros : List Char → List Char :=
  fun cs => (cs.reverse.dropWhile (· == '0')).reverse

/-- The digits of a decimal without trailing zeros, and the number of digits before its point. -/
def placed (decimal : Nat × Int) : List Char × Int :=
  let digits := Nat.toDigits 10 decimal.1
  (dropZeros digits, decimal.2 + digits.length)

def zeros (n : Nat) : List Char := List.replicate n '0'

def exponentText (e : Int) : List Char :=
  let digits := Nat.toDigits 10 e.natAbs
  (if e < 0 then '-' else '+') :: (if digits.length < 2 then '0' :: digits else digits)

def layOut (digits : List Char) (point : Int) : List Char :=
  if point > 16 || point < -3 then
    let fraction := digits.drop 1
    digits.take 1 ++ (if fraction.isEmpty then [] else '.' :: fraction) ++
      'e' :: exponentText (point - 1)
  else if point ≤ 0 then '0' :: '.' :: zeros (-point).toNat ++ digits
  else
    let whole := digits.take point.toNat
    let fraction := digits.drop point.toNat
    whole ++ zeros (point.toNat - whole.length) ++
      '.' :: (if fraction.isEmpty then ['0'] else fraction)

def showChars : Binary64 → List Char
  | .nan => "nan".toList
  | .infinite negative => (if negative then "-inf" else "inf").toList
  | .finite negative significand exponent =>
    let sign := if negative then ['-'] else []
    if significand == 0 then sign ++ "0.0".toList
    else
      let (digits, point) := placed (shortest significand exponent)
      sign ++ layOut digits point

/-- The shortest text that reads back to the number. -/
def display (x : Binary64) : String := String.ofList x.showChars

end FactIntake.Binary64
