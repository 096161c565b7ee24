import FactIntake.Literal.Grammar.Loops

/-!
The arguments of a call. The rest of the grammar asks for their terms and for their kinds.
-/

namespace FactIntake.Literal.Grammar

open Literal.Parser

inductive ArgumentKind
  | positional | named
  /-- A mapping is taken in. -/
  | unpacked
deriving DecidableEq, Repr

structure Argument where
  kind : ArgumentKind
  term : Term

def loopInArgument (rules : Rules) : Parser Unit := do
  let _ ← name
  mark "="
  let _ ← rules .expression
  let _ ← loops rules
  refuse maybeAssignment

def strayNamed (rules : Rules) : Parser Unit := nested <| firstOf [
  (do
    let word ← firstOf constants
    mark "="
    refuse ("cannot assign to " ++ word.describe)),
  loopInArgument rules,
  (do
    notAhead (do let _ ← name; mark "=")
    let _ ← rules .expression
    mark "="
    refuse "expression cannot contain assignment, perhaps you meant \"==\"?")]

def namedArgument (rules : Rules) : Parser Argument := do
  let _ ← name
  mark "="
  return ⟨.named, .clause [← rules .expression]⟩

def starredArgument (rules : Rules) : Parser Argument := do
  return ⟨.positional, ← starredTerm rules⟩

def unpackedArgument (rules : Rules) : Parser Argument := do
  mark "**"
  return ⟨.unpacked, .clause [← rules .expression]⟩

def namedOrStarred (rules : Rules) : Parser Argument := nested do
  checked (strayNamed rules)
  (namedArgument rules).or (starredArgument rules)

def namedOrUnpacked (rules : Rules) : Parser Argument := nested do
  checked (strayNamed rules)
  (namedArgument rules).or (unpackedArgument rules)

def namedArguments (rules : Rules) : Parser (List Argument) := nested <| firstOf [
  (do
    let starred ← separated (namedOrStarred rules)
    mark ","
    return starred ++ (← separated (namedOrUnpacked rules))),
  separated (namedOrStarred rules),
  separated (namedOrUnpacked rules)]

def positionalArgument (rules : Rules) : Parser Argument := nested <| firstOf [
  starredArgument rules,
  (do
    let term ← assignable rules
    notAhead (mark "=")
    return ⟨.positional, term⟩)]

def argumentParts (rules : Rules) : Parser (List Argument) := nested <| firstOf [
  (do
    let positional ← separated (positionalArgument rules)
    let named ← optional <| nested do mark ","; namedArguments rules
    return positional ++ named.getD []),
  namedArguments rules]

def loneGenerator : String := "Generator expression must be parenthesized"

def misplaced (arguments : List Argument) : String :=
  "positional argument follows keyword argument" ++
    (if arguments.any (·.kind == .unpacked) then " unpacking" else "")

def strayArguments (rules : Rules) : Parser Unit := nested <| firstOf [
  (do
    let _ ← argumentParts rules
    mark ","
    mark "*"
    refuse "iterable argument unpacking follows keyword argument unpacking"),
  (do
    let _ ← rules .expression
    let _ ← loops rules
    mark ","
    let _ ← optional <| nested <| firstOf [
      (do let _ ← argumentParts rules),
      (do let _ ← rules .expression; let _ ← loops rules)]
    refuse loneGenerator),
  loopInArgument rules,
  (do
    let arguments ← argumentParts rules
    let _ ← loops rules
    if arguments.countP (·.kind == .positional) ≤ 1 then return () else refuse loneGenerator),
  (do
    let _ ← argumentParts rules
    mark ","
    let _ ← rules .expression
    let _ ← loops rules
    refuse loneGenerator),
  (do
    let arguments ← argumentParts rules
    mark ","
    let _ ← argumentParts rules
    refuse (misplaced arguments))]

def arguments (rules : Rules) : Parser (List Term) := nested <| firstOf [
  (do
    let arguments ← argumentParts rules
    let _ ← (mark ",").optional
    ahead (mark ")")
    return arguments.map (·.term)),
  (do
    checked (strayArguments rules)
    fail)]

end FactIntake.Literal.Grammar
