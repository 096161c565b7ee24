import FactIntake.Literal.Grammar

/-!
Values in their notation. A text is a value if it is a term and the term is a value; otherwise there
is one reason why it is not. Of the reasons in a text that is no term, what scanning finds comes
first, wherever it is. On the way there may be remarks, which do not keep a text from being a value.
-/

namespace FactIntake.Literal

/-- Why a text is no value. -/
inductive Refusal
  /-- The text is no term. -/
  | misspelt (message : String)
  /-- The text cannot be read for another reason, or the term is no value. -/
  | worthless (message : String)
deriving DecidableEq, Repr

/-- Why a text is no term. -/
inductive Unspelt
  | found (finding : Finding)
  /-- It is too complex. -/
  | exhausted

/-- What is wrong after the tokens that rules looked at, if anything is. -/
def laterFinding? (scan : Scan) (reached : Nat) : Option Finding :=
  match scan.ending with
  | .flawed message => some (.scanner message)
  | .broken _ (some bracket) =>
    let last := (scan.tokens[reached - 1]?.map Token.line).getD 1
    if bracket.line < last then some (.parser bracket.unclosed) else none
  | _ => none

/-- How much of a text is scanned. -/
inductive Extent
  | all
  /-- Only the tokens that rules looked at. -/
  | reached

def Halt.reason (scan : Scan) (reached : Nat) : Halt → Unspelt × Extent
  | scanned finding => (.found finding, .reached)
  | ruled finding =>
    if scan.tokens[reached - 1]?.any Token.isLast then (.found finding, .reached)
    else (.found ((laterFinding? scan reached).getD finding), .all)
  | exhausted => (.exhausted, .reached)

/-- What is wrong with a text that fits no rule, by the last token that was looked at: at first, and
later when rules looked for mistakes. -/
def plainReason (scan : Scan) (first reached : Nat) : Unspelt × Extent :=
  match scan.tokens[first - 1]?.map Token.kind with
  | some .indent => (.found (.parser "unexpected indent"), .reached)
  | some .dedent => (.found (.parser "unexpected unindent"), .reached)
  | _ => (.found ((laterFinding? scan reached).getD (.parser "invalid syntax")), .all)

/-- The remarks on all tokens that are scanned. -/
def allWarnings (scan : Scan) (memory : Memory) : Extent → Array Warning
  | .reached => memory.warnings
  | .all => memory.warnings ++ (scan.tokens.toList.drop memory.reached).flatMap Token.warnings

/-- The term that a text spells by a parser, or what is wrong with it. -/
def spelt (field : FieldReader) (whole : Parser Term) (line : Nat) (cs : List Char) :
    ExceptT Unspelt (StateM (Array Warning)) Term := fun warnings =>
  let scan := scan line cs
  let run (checking : Bool) (reached : Nat) (warnings : Array Warning) : Progress Term :=
    whole ⟨scan, checking, field, 0⟩ 0 ⟨reached, ∅, warnings⟩
  let failed (reason : Unspelt × Extent) (memory : Memory) :=
    (.error reason.1, allWarnings scan memory reason.2)
  match run false 0 warnings with
  | .matched term _ memory => (.ok term, memory.warnings)
  | .stopped halt memory => failed (halt.reason scan memory.reached) memory
  | .failed memory =>
    match run true memory.reached memory.warnings with
    | .stopped halt later => failed (halt.reason scan later.reached) later
    | .matched _ _ later | .failed later =>
      failed (plainReason scan memory.reached later.reached) later

/-- What is wrong in the term of a field, as it is told of the quotation. -/
def Unspelt.flaw : Unspelt → Flaw
  | found finding => .told finding.inField
  | exhausted => .exhausted

/-- Reads the term of a field, in which quotations may hold fields in turn, up to a depth. -/
def fieldReaderUpTo : Nat → FieldReader
  | 0 => fun _ _ => throw .exhausted
  | depth + 1 => fun line cs =>
    let whole := Parser.nested (Grammar.starExpressions Grammar.rule)
    (spelt (fieldReaderUpTo depth) whole line ('(' :: cs ++ [')'])).adapt Unspelt.flaw

/-- The term that a text spells, or what is wrong with it. -/
def term? (cs : List Char) : ExceptT Unspelt (StateM (Array Warning)) Term :=
  spelt (fieldReaderUpTo (cs.length + 1)) Grammar.whole 1 cs

def troubleText : Term.Trouble → String
  | .tooDeep => "maximum recursion depth exceeded during ast construction"
  | .noKey => "malformed node or string: None"
  | .noValue => "malformed node or string"
  | .tooLarge => "int too large to convert to float"
  | .unhashable typeName => "unhashable type: '" ++ typeName ++ "'"

/-- Why a text is no value. -/
def refusal? (cs : List Char) : StateM (Array Warning) (Option Refusal) := do
  if cs.contains '\x00' then
    return some (.worthless "source code string cannot contain null bytes")
  match ← (term? (cs.dropWhile fun c => c == ' ' || c == '\t')).run with
  | .error (.found finding) => return some (.misspelt finding.message)
  | .error .exhausted => return some (.worthless "")
  | .ok term => return term.trouble?.map fun trouble => .worthless (troubleText trouble)

end FactIntake.Literal
