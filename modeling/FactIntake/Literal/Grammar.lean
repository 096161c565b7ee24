import FactIntake.Literal.Grammar.Brackets
import FactIntake.Literal.Grammar.Calls
import FactIntake.Literal.Grammar.Expressions
import FactIntake.Literal.Grammar.Operators

/-!
The grammar of the notation. A rule takes the first of its alternatives that matches. When a text is
no term, it is parsed once more with rules that know common mistakes; such a rule either says what
is wrong or changes nothing.
-/

namespace FactIntake.Literal.Grammar

open Literal.Parser

def assignsNext : Parser Unit := firstOf [mark "=", mark ":="]

/-- Tuples, generators and constant words, which an equals sign may follow elsewhere. -/
def fixedStart (rules : Rules) : Parser Unit := nested do
  let _ ← firstOf ([tuple rules, generator rules] ++ constants)

/-- Assignments to terms that have no name. -/
def strayAssignment (rules : Rules) : Parser Unit := firstOf [
  (do
    let term ← rules .expression
    mark ":="
    let _ ← rules .expression
    refuse ("cannot use assignment expressions with " ++ term.describe)),
  (do
    let _ ← name
    mark "="
    let _ ← rules .bitOr
    notAhead assignsNext
    refuse maybeAssignment),
  (do
    notAhead (fixedStart rules)
    let term ← rules .bitOr
    mark "="
    let _ ← rules .bitOr
    notAhead assignsNext
    refuse ("cannot assign to " ++ term.describe ++
      " here. Maybe you meant '==' instead of '='?"))]

/-- A term that may be named on the way. -/
def named (rules : Rules) : Parser Term := (assignment rules).or do
  checked (rules .strayAssignment)
  unassigned rules

/-- A member of a display. -/
def member (rules : Rules) : Parser Term := (starredOperand rules).or (rules .named)

def atom (rules : Rules) : Parser Term := nested <| firstOf <|
  [(do return .name (← name))] ++ constants ++ [
    (do ahead (do let _ ← quotation); rules .quotations),
    number,
    (do
      ahead (mark "(")
      nested <| firstOf [tuple rules, group rules, generator rules]),
    (do
      ahead (mark "\x7b")
      nested <| firstOf [mapping rules, set rules, mappingOfEach rules, setOfEach rules]),
    (do mark "..."; return .constant .ellipsis)]

/-- What may follow a term at once, as a function of the term. -/
def trailer (rules : Rules) : Parser (Term → Term) := firstOf [
  (do
    mark "."
    let _ ← name
    return .member),
  (do
    let each ← generator rules
    return fun callee => .call callee [each]),
  (do
    mark "("
    let given ← (arguments rules).optional
    mark ")"
    return fun callee => .call callee (given.getD []))]

def primary (rules : Rules) : Parser Term := extended (atom rules) (trailer rules)

/-- What a target begins with, as long as it goes on. -/
def loopPrimary (rules : Rules) : Parser Term := deeper 2 <|
  let goingOn {α : Type} (p : Parser α) : Parser α := do
    let value ← p
    ahead targetGoesOn
    return value
  extended (goingOn (atom rules)) (goingOn (trailer rules))

def loopAtom (rules : Rules) : Parser Term := firstOf [
  (do
    let owner ← loopPrimary rules
    mark "."
    let _ ← name
    notAhead targetGoesOn
    return .member owner),
  (do return .name (← name)),
  nested do
    mark "("
    let target ← rules .loopAtom
    mark ")"
    return target,
  nested do
    mark "("
    let targets ← (loopTargets rules).optional
    mark ")"
    return .tuple (targets.getD [])]

/-- What each rule matches. -/
def body (rules : Rules) : Rule → Parser Term
  | .expression => expression rules
  | .starExpression => starExpression rules
  | .disjunction => logical rules .conjunction "or"
  | .conjunction => logical rules .inversion "and"
  | .inversion => inversion rules
  | .bitOr => chain rules .bitXor ["|"]
  | .bitXor => chain rules .bitAnd ["^"]
  | .bitAnd => chain rules .shift ["&"]
  | .shift => chain rules .sum ["<<", ">>"]
  | .sum => chain rules .product ["+", "-"]
  | .product => chain rules .factor ["*", "/", "//", "%", "@"]
  | .factor => firstOf [signed rules "+", signed rules "-", signed rules "~", power rules]
  | .awaited => awaited rules
  | .primary => primary rules
  | .quotations => quotations
  | .named => named rules
  | .member => member rules
  | .strayAssignment => do
    strayAssignment rules
    fail
  | .loopTarget => loopTarget rules
  | .loopAtom => loopAtom rules

/-- A rule, with at most `fuel` rules in one another. -/
def ruleUpTo : Nat → Rule → Parser Term
  | 0, _ => exhaust
  | fuel + 1, wanted =>
    let run := deeper (wanted.levels - 1) (body (ruleUpTo fuel) wanted)
    nested (if wanted.isRemembered then remembered wanted run else run)

/-- A rule. As every rule is a level down from the one that calls it, no more rules can be in one
another than there are levels. -/
def rule : Rules := ruleUpTo (levelLimit + 1)

/-- A whole text: terms with commas between them, and nothing but ends of lines after them. -/
def whole : Parser Term := nested do
  let term ← listed (rule .expression)
  let _ ← many (kind .lineEnd)
  kind .finish
  return term

end FactIntake.Literal.Grammar
