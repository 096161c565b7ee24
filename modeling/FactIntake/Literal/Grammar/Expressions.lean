import FactIntake.Literal.Grammar.Loops
import FactIntake.Literal.Grammar.Parameters

/-!
Conditions, functions, and the mistakes that are told before any term is read.
-/

namespace FactIntake.Literal.Grammar

open Literal.Parser

def statementCall (word : String) : String :=
  "Missing parentheses in call to '" ++ word ++ "'. Did you mean " ++ word ++ "(...)?"

def conditional (rules : Rules) : Parser Term := do
  let first ← rules .disjunction
  let rest ← optional do
    keyword "if"
    let condition ← rules .disjunction
    keyword "else"
    return [condition, ← rules .expression]
  return match rest with
    | some rest => .conditional (first :: rest)
    | none => first

def function (rules : Rules) : Parser Term := nested do
  keyword "lambda"
  let defaults ← optional <| nested do
    checked (strayParameters rules)
    parameters rules
  mark ":"
  return .function (defaults.getD []) (← rules .expression)

def plainExpression (rules : Rules) : Parser Term := (conditional rules).or (function rules)

/-- Two terms side by side in brackets, and a condition without its alternative. -/
def strayExpression (rules : Rules) : Parser Unit := nested <| firstOf [
  (do
    notAhead (firstOf [(do let _ ← name; let _ ← quotation), softKeyword])
    let first ← rules .disjunction
    let _ ← unchecked (nested (plainExpression rules))
    if isStatement first then return ()
    else if (← depthBefore) == 0 then return ()
    else refuse "invalid syntax. Perhaps you forgot a comma?"),
  (do
    let _ ← rules .disjunction
    keyword "if"
    let _ ← rules .disjunction
    notAhead (firstOf [keyword "else", mark ":"])
    refuse "expected 'else' after 'if' expression")]

/-- A statement without parentheses in the place of a call. -/
def bareStatement (rules : Rules) : Parser Unit := nested do
  let word ← name
  notAhead (mark "(")
  let _ ← starExpressions rules
  if isStatement (.name word) then refuse (statementCall word) else return ()

def expression (rules : Rules) : Parser Term := do
  checked (strayExpression rules)
  checked (bareStatement rules)
  plainExpression rules

end FactIntake.Literal.Grammar
