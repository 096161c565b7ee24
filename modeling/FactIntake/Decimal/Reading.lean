import FactIntake.Decimal.Binary64

/-!
Reading numbers from decimal text.
-/

namespace FactIntake.Binary64

def digitValue (c : Char) : Nat := c.toNat - 48

def isDigit (c : Char) : Bool := '0' ≤ c && c ≤ '9'

/-- The value of a list of decimal digits. -/
def natOf (digits : List Char) : Nat :=
  digits.foldl (fun n c => 10 * n + digitValue c) 0

/-- Splits an optional sign off. -/
def signOf : List Char → Bool × List Char
  | '-' :: cs => (true, cs)
  | '+' :: cs => (false, cs)
  | cs => (false, cs)

def intOf (cs : List Char) : Int :=
  let (negative, digits) := signOf cs
  if negative then -(natOf digits : Int) else natOf digits

/-- The number with the given whole digits, digits after the point and exponent. -/
def ofParts (negative : Bool) (whole fraction : List Char) (exponent : Int) : Binary64 :=
  ofDecimal negative (natOf (whole ++ fraction)) (exponent - fraction.length)

/-- Splits an optional fraction off: the digits after a point, if there is one. -/
def fractionOf : List Char → List Char × List Char
  | '.' :: cs => (cs.takeWhile isDigit, cs.dropWhile isDigit)
  | cs => ([], cs)

/-- The exponent that takes up the whole rest of a text. -/
def exponentOf : List Char → Option Int
  | [] => some 0
  | c :: cs =>
    let digits := (signOf cs).2
    if (c == 'e' || c == 'E') && !digits.isEmpty && digits.all isDigit then some (intOf cs)
    else none

/-- Reads a number as it is displayed. -/
def ofText? (s : String) : Option Binary64 :=
  let (negative, cs) := signOf s.toList
  if cs == "nan".toList then some .nan
  else if cs == "inf".toList then some (.infinite negative)
  else
    let whole := cs.takeWhile isDigit
    let (fraction, rest) := fractionOf (cs.dropWhile isDigit)
    if whole.isEmpty && fraction.isEmpty then none
    else (exponentOf rest).map (ofParts negative whole fraction)

end FactIntake.Binary64
