import FactIntake.Literal.Grammar.Words

/-!
Named and starred terms, lists of terms, and the loops that make one term of many.
-/

namespace FactIntake.Literal.Grammar

open Literal.Parser

def assignment (rules : Rules) : Parser Term := nested do
  let _ ← name
  mark ":="
  return .assigned (← rules .expression)

def unassigned (rules : Rules) : Parser Term := do
  let term ← rules .expression
  notAhead (mark ":=")
  return term

/-- A term in whose place an assignment may stand. -/
def assignable (rules : Rules) : Parser Term := nested <| (assignment rules).or (unassigned rules)

def maybeAssignment : String :=
  "invalid syntax. Maybe you meant '==' or ':=' instead of '='?"

/-- A star before any term. -/
def starredTerm (rules : Rules) : Parser Term := nested do
  mark "*"
  return .starred (← rules .expression)

def starredOperand (rules : Rules) : Parser Term := do
  mark "*"
  return .starred (← rules .bitOr)

def starExpression (rules : Rules) : Parser Term :=
  (starredOperand rules).or (rules .expression)

/-- One or more terms; a comma makes a tuple of them. -/
def listed (item : Parser Term) : Parser Term := nested do
  let first ← item
  let rest ← repeated <| nested do mark ","; item
  let comma ← (mark ",").optional
  return match rest, comma with
    | [], none => first
    | rest, _ => .tuple (first :: rest)

def starExpressions (rules : Rules) : Parser Term := listed (rules .starExpression)

/-- Whether a target goes on. -/
def targetGoesOn : Parser Unit := firstOf [mark "(", mark "[", mark "."]

def loopTargets (rules : Rules) : Parser (List Term) := nested do
  let first ← rules .loopTarget
  let rest ← repeated <| nested do mark ","; rules .loopTarget
  let _ ← (mark ",").optional
  return first :: rest

def loopTarget (rules : Rules) : Parser Term := firstOf [
  (do mark "*"; notAhead (mark "*"); rules .loopTarget),
  rules .loopAtom]

def strayTarget (rules : Rules) : Parser Unit := nested do
  let _ ← (keyword "async").optional
  keyword "for"
  let target ← starExpressions rules
  match target.unassignable? with
  | some term => refuse ("cannot assign to " ++ term.describe)
  | none => return ()

def loopHead (rules : Rules) : Parser (List Term) := do
  let _ ← (keyword "async").optional
  keyword "for"
  let targets ← loopTargets rules
  keyword "in"
  return targets

/-- One loop; once its targets are known it has to go on. -/
def loop (rules : Rules) : Parser Term := nested do
  match ← (loopHead rules).optional with
  | some targets =>
    let source ← rules .disjunction
    let conditions ← repeated <| nested do keyword "if"; rules .disjunction
    return .clause (targets ++ source :: conditions)
  | none =>
    checked (strayTarget rules)
    fail

def loops (rules : Rules) : Parser (List Term) := nested (loop rules).atLeastOnce

end FactIntake.Literal.Grammar
