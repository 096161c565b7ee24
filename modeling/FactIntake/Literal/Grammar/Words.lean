import FactIntake.Decimal.Numeral
import FactIntake.Literal.Parser

/-!
The smallest terms of the notation: constants, numbers and quotations.
-/

namespace FactIntake.Literal.Grammar

open Literal.Parser

/-- How rules call the rules that call them. -/
abbrev Rules := Rule → Parser Term

/-- Words with a meaning in some places only; what begins one of them counts as well. -/
def softKeyword : Parser Unit := do
  let word := (← name).toList
  if ["_", "case", "match"].any fun known => word.isPrefixOf known.toList then return () else fail

def quotation : Parser Quotation := token fun
  | .quotation quotation => some quotation
  | _ => none

def isStatement (term : Term) : Bool :=
  match term with
  | .name text => text == "print" || text == "exec"
  | _ => false

/-- Quotations side by side. -/
def quotations : Parser Term := do
  quoted (← quotation.atLeastOnce)

def longNumeral (digits : Nat) : String :=
  Numeral.tooLongText digits ++
    " - Consider hexadecimal for huge integer literals to avoid decimal conversion limits."

def number : Parser Term := do
  let number ← token fun
    | .number number => some number
    | _ => none
  match number with
  | .whole _ digits =>
    if Numeral.digitLimit < digits then refuse (longNumeral digits)
    else return .constant (.number number)
  | _ => return .constant (.number number)

def constants : List (Parser Term) := [
  (do keyword "True"; return .constant (.truth true)),
  (do keyword "False"; return .constant (.truth false)),
  (do keyword "None"; return .constant .none)]

end FactIntake.Literal.Grammar
