import FactIntake.Decimal.Binary64
import FactIntake.Literal.Number

/-!
Terms of the notation for values. Only some terms are values: constants, numbers with a sign, sums
of a real and an imaginary number, and tuples, sets and mappings of values. Members of sets and
keys of mappings have to be values that do not change.
-/

namespace FactIntake.Literal

inductive Constant
  | none
  | truth (value : Bool)
  | ellipsis
  | number (number : Number)
  | text
  | bytes
deriving DecidableEq, Repr

inductive Term
  | name (text : String)
  | constant (constant : Constant)
  /-- Quotations with fields. -/
  | formatted (fields : List Term)
  /-- A field with its term, and its format if it has one. -/
  | field (value : Term) (format : Option Term)
  | tuple (items : List Term)
  | set (items : List Term)
  /-- Entries without a key take in another mapping. -/
  | mapping (entries : List (Option Term × Term))
  | signed (sign : String) (operand : Term)
  | binary (operator : String) (left right : Term)
  | logical (operands : List Term)
  /-- A comparison; its first operator may be the one that asks for a member. -/
  | comparison (left : Term) (asksMember : Bool) (others : List Term)
  | conditional (parts : List Term)
  | function (defaults : List Term) (body : Term)
  | call (callee : Term) (arguments : List Term)
  | member (owner : Term)
  | assigned (value : Term)
  | awaited (term : Term)
  | yielded (term : Option Term)
  | generator (each : Term) (loops : List Term)
  | setOfEach (each : Term) (loops : List Term)
  | mappingOfEach (key value : Term) (loops : List Term)
  | starred (term : Term)
  /-- What is no term by itself: a loop, or an argument with a name. -/
  | clause (parts : List Term)
deriving Inhabited

namespace Term

/-- What a term is called in messages. -/
def describe : Term → String
  | name _ => "name"
  | constant .none => "None"
  | constant (.truth b) => if b then "True" else "False"
  | constant .ellipsis => "ellipsis"
  | constant _ => "literal"
  | formatted _ | field .. => "f-string expression"
  | tuple _ => "tuple"
  | set _ => "set display"
  | mapping _ => "dict literal"
  | signed .. | binary .. | logical _ => "expression"
  | comparison .. => "comparison"
  | conditional _ => "conditional expression"
  | function .. => "lambda"
  | call .. => "function call"
  | member _ => "attribute"
  | assigned _ => "named expression"
  | awaited _ => "await expression"
  | yielded _ => "yield expression"
  | generator .. => "generator expression"
  | setOfEach .. => "set comprehension"
  | mappingOfEach .. => "dict comprehension"
  | starred _ => "starred"
  | clause _ => "clause"

mutual

/-- How many terms and clauses stand in one another. -/
def depth : Term → Nat
  | name _ | constant _ | yielded none => 1
  | formatted terms | tuple terms | set terms | logical terms | conditional terms | clause terms =>
    depthOfAll terms + 1
  | field value none => value.depth + 1
  | field value (some format) => max value.depth format.depth + 1
  | mapping entries => depthOfEntries entries + 1
  | signed _ term | member term | assigned term | awaited term | yielded (some term)
  | starred term => term.depth + 1
  | binary _ left right => max left.depth right.depth + 1
  | comparison left _ others => max left.depth (depthOfAll others) + 1
  | function defaults body => max (depthOfAll defaults + 1) body.depth + 1
  | call callee arguments => max callee.depth (depthOfAll arguments) + 1
  | generator each loops | setOfEach each loops => max each.depth (depthOfAll loops) + 1
  | mappingOfEach key value loops =>
    max (max key.depth value.depth) (depthOfAll loops) + 1

def depthOfAll : List Term → Nat
  | [] => 0
  | term :: terms => max term.depth (depthOfAll terms)

def depthOfEntries : List (Option Term × Term) → Nat
  | [] => 0
  | (none, value) :: entries => max value.depth (depthOfEntries entries)
  | (some key, value) :: entries => max (max key.depth value.depth) (depthOfEntries entries)

end

mutual

/-- The part of a term that nothing can be assigned to in a loop, if there is one. -/
def unassignable? : Term → Option Term
  | name _ | member _ => none
  | tuple items => firstUnassignable? items
  | starred term => term.unassignable?
  | comparison left asksMember _ => if asksMember then left.unassignable? else none
  | term => some term

def firstUnassignable? : List Term → Option Term
  | [] => none
  | term :: terms => (unassignable? term).or (firstUnassignable? terms)

end

/-- The most terms that may stand in one another. -/
def depthLimit : Nat := 2963

/-- Why a term is no value. -/
inductive Trouble
  | tooDeep
  /-- An entry of a mapping has no key. -/
  | noKey
  | noValue
  /-- A sum has a whole number that no floating-point number is near to. -/
  | tooLarge
  | unhashable (typeName : String)
deriving DecidableEq, Repr

/-- The type of a value that may change, or nothing. -/
abbrev Changing := Option String

def fixed (changing : Changing) : Except Trouble Unit :=
  match changing with
  | some typeName => .error (.unhashable typeName)
  | none => .ok ()

def number? : Term → Option Number
  | constant (.number number) => some number
  | _ => none

/-- The number of a term that may have a sign. -/
def signedNumber? : Term → Option Number
  | signed sign operand => if sign == "+" || sign == "-" then operand.number? else none
  | term => term.number?

def Number.isTooLarge : Number → Bool
  | .whole value _ => Binary64.ofQuotient false value 1 == .infinite false
  | _ => false

/-- A sum has a real number, maybe with a sign, and an imaginary one. -/
def checkSum (operator : String) (left right : Term) : Except Trouble Changing :=
  match left.signedNumber?, right.number? with
  | some number, some .imaginary =>
    if (operator != "+" && operator != "-") || number == .imaginary then .error .noValue
    else if Number.isTooLarge number then .error .tooLarge
    else .ok none
  | _, _ => .error .noValue

mutual

/-- Whether the parts of a term are values, and whether its own value may change. -/
def check : Term → Except Trouble Changing
  | constant _ => .ok none
  | tuple items => checkAll items
  | set items => do
    checkEach items
    return some "set"
  | mapping entries => do
    checkEntries entries
    return some "dict"
  | call (name "set") [] => .ok (some "set")
  | binary operator left right => checkSum operator left right
  | term => if term.signedNumber?.isSome then .ok none else .error .noValue

/-- A tuple may change if one of its items may. -/
def checkAll : List Term → Except Trouble Changing
  | [] => .ok none
  | item :: items => do
    let changing ← check item
    return changing.or (← checkAll items)

def checkEach : List Term → Except Trouble Unit
  | [] => .ok ()
  | item :: items => do
    fixed (← check item)
    checkEach items

def checkEntries : List (Option Term × Term) → Except Trouble Unit
  | [] => .ok ()
  | (none, _) :: _ => .error .noKey
  | (some key, value) :: entries => do
    let changing ← check key
    let _ ← check value
    fixed changing
    checkEntries entries

end

/-- What keeps a term from being a value, if anything does. -/
def trouble? (term : Term) : Option Trouble :=
  if depthLimit < term.depth then some .tooDeep
  else match term.check with
    | .ok _ => none
    | .error trouble => some trouble

end Term

end FactIntake.Literal
