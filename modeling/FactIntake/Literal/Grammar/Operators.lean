import FactIntake.Literal.Grammar.Words

/-!
Terms with an operator, from the least binding to the most.
-/

namespace FactIntake.Literal.Grammar

open Literal.Parser

/-- Operands with operators between them, from the left on. -/
def chain (rules : Rules) (operand : Rule) (operators : List String) : Parser Term :=
  extended (rules operand) do
    let operator ← token fun
      | .mark text => if operators.contains text then some text else none
      | _ => none
    let right ← rules operand
    return fun left => .binary operator left right

def logical (rules : Rules) (operand : Rule) (operator : String) : Parser Term := do
  let first ← rules operand
  let rest ← repeated <| nested do
    keyword operator
    rules operand
  return if rest.isEmpty then first else .logical (first :: rest)

/-- An operator of comparisons, and whether it asks for a member. -/
def comparisonOperator : Parser Bool := firstOf [
  (token fun
    | .mark text => if ["==", "!=", "<=", "<", ">=", ">"].contains text then some false else none
    | _ => none),
  (do keyword "not"; keyword "in"; return false),
  (do keyword "in"; return true),
  (do keyword "is"; let _ ← (keyword "not").optional; return false)]

def comparison (rules : Rules) : Parser Term := nested do
  let first ← rules .bitOr
  let rest ← repeated <| deeper 2 do
    let asksMember ← comparisonOperator
    return (asksMember, ← rules .bitOr)
  return match rest with
    | [] => first
    | (asksMember, _) :: _ => .comparison first asksMember (rest.map (·.2))

def inversion (rules : Rules) : Parser Term := firstOf [
  (do keyword "not"; return .signed "not" (← rules .inversion)),
  comparison rules]

def signed (rules : Rules) (sign : String) : Parser Term := do
  mark sign
  return .signed sign (← rules .factor)

def power (rules : Rules) : Parser Term := nested do
  let base ← rules .awaited
  match ← optional (do mark "**"; rules .factor) with
  | some exponent => return .binary "**" base exponent
  | none => return base

def awaited (rules : Rules) : Parser Term := firstOf [
  (do keyword "await"; return .awaited (← rules .primary)),
  rules .primary]

end FactIntake.Literal.Grammar
