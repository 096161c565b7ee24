import FactIntake.Literal.Quotation
import FactIntake.Literal.Scanner
import Std.Data.HashMap

/-!
Parsers over the tokens of a text. A parser matches, fails and lets another one try, or stops for
good, either because scanning ended or because a rule knows what is wrong. What a rule gave at a
place is remembered, and how many tokens were looked at is counted.
-/

namespace FactIntake.Literal

/-- The rules that call themselves through others. -/
inductive Rule
  | expression | starExpression | disjunction | conjunction | inversion
  | bitOr | bitXor | bitAnd | shift | sum | product | factor | awaited | primary | quotations
  | named | member | strayAssignment | loopTarget | loopAtom
deriving DecidableEq, Hashable, Repr

/-- Whether what a rule gave at a place is remembered. -/
def Rule.isRemembered : Rule → Bool
  | named | member => false
  | _ => true

/-- How many levels down a rule is from the rule that calls it: rules that begin with themselves
are two. -/
def Rule.levels : Rule → Nat
  | bitOr | bitXor | bitAnd | shift | sum | product | primary => 2
  | _ => 1

/-- What is wrong with a text, and who found it. -/
inductive Finding
  | scanner (message : String)
  | parser (message : String)
  /-- It is the term of a field in a quotation that is wrong. -/
  | field (message : String)
deriving DecidableEq, Repr

def Finding.message : Finding → String
  | scanner message | parser message | field message => message

/-- What is found in a field of a formatted quotation, as it is told there. -/
def Finding.inField : Finding → String
  | scanner message | field message => message
  | parser message => "f-string: " ++ message

/-- Why parsing stops for good. -/
inductive Halt
  /-- There is no next token. -/
  | scanned (finding : Finding)
  /-- A rule knows what is wrong. -/
  | ruled (finding : Finding)
  /-- Too many rules are within one another. -/
  | exhausted

def Flaw.halt : Flaw → Halt
  | own message => .ruled (.parser message)
  | told message => .ruled (.field message)
  | exhausted => .exhausted

/-- What is known while a text is parsed. -/
structure Memory where
  /-- How many tokens were looked at. -/
  reached : Nat
  /-- What rules gave at a place, and the place behind it. -/
  known : Std.HashMap (Rule × Nat) (Option (Term × Nat))
  warnings : Array Warning

inductive Progress (α : Type)
  /-- A value, and the place of the token behind it. -/
  | matched (value : α) (place : Nat) (memory : Memory)
  | failed (memory : Memory)
  | stopped (halt : Halt) (memory : Memory)

def Memory.remember (memory : Memory) (rule : Rule) (place : Nat) (found : Option (Term × Nat)) :
    Memory :=
  { memory with known := memory.known.insert (rule, place) found }

structure Context where
  scan : Scan
  /-- Whether rules look for what is wrong. -/
  checking : Bool
  field : FieldReader
  /-- How many rules this one is within. -/
  level : Nat

/-- A parser goes on from the place of a token. -/
def Parser (α : Type) : Type := Context → (place : Nat) → Memory → Progress α

namespace Parser

protected def pure (value : α) : Parser α := fun _ place memory => .matched value place memory

protected def bind (p : Parser α) (next : α → Parser β) : Parser β := fun context place memory =>
  match p context place memory with
  | .matched value place memory => next value context place memory
  | .failed memory => .failed memory
  | .stopped halt memory => .stopped halt memory

instance : Monad Parser where
  pure := Parser.pure
  bind := Parser.bind

def fail : Parser α := fun _ _ memory => .failed memory

/-- Stops because a rule knows what is wrong. -/
def refuse (message : String) : Parser α := fun _ _ memory =>
  .stopped (.ruled (.parser message)) memory

/-- Stops because too many rules are within one another. -/
def exhaust : Parser α := fun _ _ memory => .stopped .exhausted memory

/-- The most rules within one another. -/
def levelLimit : Nat := 6000

/-- A parser some levels down. -/
def deeper (levels : Nat) (p : Parser α) : Parser α := fun context place memory =>
  let level := context.level + levels
  if levelLimit < level then exhaust context place memory
  else p { context with level := level } place memory

/-- A parser one level down. -/
def nested (p : Parser α) : Parser α := deeper 1 p

/-- The first of two parsers that matches. -/
def or (p q : Parser α) : Parser α := fun context place memory =>
  match p context place memory with
  | .failed memory => q context place memory
  | progress => progress

def firstOf : List (Parser α) → Parser α
  | [] => fail
  | p :: ps => p.or (firstOf ps)

def optional (p : Parser α) : Parser (Option α) :=
  (p.bind fun value => .pure (some value)).or (.pure none)

/-- Whether a parser matches here, without going on. -/
def matchesHere (p : Parser α) : Parser Bool := fun context place memory =>
  match p context place memory with
  | .matched _ _ memory => .matched true place memory
  | .failed memory => .matched false place memory
  | .stopped halt memory => .stopped halt memory

def ahead (p : Parser α) : Parser Unit := do
  if ← p.matchesHere then return () else fail

def notAhead (p : Parser α) : Parser Unit := do
  if ← p.matchesHere then fail else return ()

/-- A parser as often as it matches, but at most `fuel` times; `found` holds what it gave before,
reversed. -/
def manyUpTo (p : Parser α) : (fuel : Nat) → (found : List α) → Parser (List α)
  | 0, found => .pure found.reverse
  | fuel + 1, found => fun context place memory =>
    match p context place memory with
    | .matched value place memory => manyUpTo p fuel (value :: found) context place memory
    | .failed memory => .matched found.reverse place memory
    | .stopped halt memory => .stopped halt memory

/-- A parser as often as it matches; each match is to read a token. -/
def many (p : Parser α) : Parser (List α) := fun context place memory =>
  manyUpTo p (context.scan.tokens.size + 1) [] context place memory

/-- A term with whatever may follow it, as often as it does. -/
def extended (first : Parser α) (more : Parser (α → α)) : Parser α := do
  let value ← first
  return (← more.many).foldl (fun value extend => extend value) value

/-- A parser as often as it matches, one level down. -/
def repeated (p : Parser α) : Parser (List α) := nested p.many

def atLeastOnce (p : Parser α) : Parser (List α) := nested do
  let first ← p
  return first :: (← p.many)

/-- Runs a rule that looks for what is wrong, if such rules are wanted, and goes back. -/
def checked (p : Parser α) : Parser Unit := fun context place memory =>
  if context.checking then
    match p context place memory with
    | .matched _ _ memory | .failed memory => .matched () place memory
    | .stopped halt memory => .stopped halt memory
  else .matched () place memory

def unchecked (p : Parser α) : Parser α := fun context place memory =>
  p { context with checking := false } place memory

def haltAt (ending : Ending) : Halt :=
  match ending with
  | .complete => .scanned (.parser "invalid syntax")
  | .flawed message => .scanned (.scanner message)
  | .broken message _ => .scanned (.parser message)

/-- The next token, which stays. -/
def peek : Parser Token := fun context place memory =>
  match context.scan.tokens[place]? with
  | some token =>
    if place < memory.reached then .matched token place memory
    else .matched token place { memory with
      reached := place + 1
      warnings := memory.warnings ++ token.warnings }
  | none => .stopped (haltAt context.scan.ending) memory

def advance : Parser Unit := fun _ place memory => .matched () (place + 1) memory

/-- A token that `read` takes. -/
def token (read : Kind → Option α) : Parser α := do
  match read (← peek).kind with
  | some value => do
    advance
    return value
  | none => fail

def kind (wanted : Kind) : Parser Unit :=
  token fun found => if found == wanted then some () else none

def mark (text : String) : Parser Unit := kind (.mark text)

def keyword (text : String) : Parser Unit := kind (.word text)

def keywords : List String := [
  "False", "None", "True", "and", "as", "assert", "async", "await", "break", "class", "continue",
  "def", "del", "elif", "else", "except", "finally", "for", "from", "global", "if", "import", "in",
  "is", "lambda", "nonlocal", "not", "or", "pass", "raise", "return", "try", "while", "with",
  "yield"]

def name : Parser String := token fun
  | .word text => if keywords.contains text then none else some text
  | _ => none

/-- Items with commas between them. -/
def separated (p : Parser α) : Parser (List α) := nested do
  let first ← p
  return first :: (← (do mark ","; p).repeated)

/-- The term of quotations side by side. -/
def quoted (quotations : List Quotation) : Parser Term := fun context place memory =>
  match (readQuotations context.field quotations).run memory.warnings with
  | (.ok term, warnings) => .matched term place { memory with warnings := warnings }
  | (.error flaw, warnings) => .stopped flaw.halt { memory with warnings := warnings }

/-- The depth of brackets after the last token that was read. -/
def depthBefore : Parser Nat := fun context place memory =>
  .matched ((context.scan.tokens[place - 1]?.map Token.depth).getD 0) place memory

/-- A rule that is run once at a place. -/
def remembered (rule : Rule) (p : Parser Term) : Parser Term := fun context place memory =>
  match memory.known[(rule, place)]? with
  | some (some (term, next)) => .matched term next memory
  | some none => .failed memory
  | none =>
    match p context place memory with
    | .matched term next memory =>
      .matched term next (memory.remember rule place (some (term, next)))
    | .failed memory => .failed (memory.remember rule place none)
    | .stopped halt memory => .stopped halt memory

end Parser

end FactIntake.Literal
