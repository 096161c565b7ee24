import FactIntake.Literal.Term
import FactIntake.Literal.Token
import FactIntake.Text.CharacterName

/-!
What quotations hold. Escapes for characters need their digits or a known name; a quotation of bytes
holds ASCII only; and in a formatted one every brace is doubled or belongs to a field. A field holds
a term and maybe a format, which is a text with fields in turn.
-/

namespace FactIntake.Literal

/-- What is wrong with a quotation. -/
inductive Flaw
  | own (message : String)
  /-- What is wrong in the term of a field; it was found in that term. -/
  | told (message : String)
  /-- The term of a field is too complex to be read. -/
  | exhausted

/-- Reading with remarks on the way. -/
abbrev Reading := ExceptT Flaw (StateM (Array Warning))

/-- How the term of a field that stands in a line is read. -/
abbrev FieldReader := (line : Nat) → List Char → Reading Term

def flaw (message : String) : Reading α := throw (.own message)

/-- Where escapes are counted: other characters than ASCII stand in a longer form. -/
def escapedWidth (c : Char) : Nat := if c.toNat < 0x80 then 1 else 10

/-- A backslash before another character than ASCII is written out as well. -/
def slashWidth (next : Option Char) : Nat :=
  if next.any fun c => 0x80 ≤ c.toNat then 6 else 1

def badEscape (start stop : Nat) (reason : String) : String :=
  "(unicode error) 'unicodeescape' codec can't decode bytes in position " ++ toString start ++
    "-" ++ toString (stop - 1) ++ ": " ++ reason

def hexNumber (digits : List Char) : Nat :=
  digits.foldl (fun n c => 16 * n + digitValue c) 0

/-- How long a text is where escapes are counted. -/
def escapedLength : List Char → Nat
  | [] => 0
  | '\\' :: c :: cs => slashWidth (some c) + escapedWidth c + escapedLength cs
  | c :: cs => escapedWidth c + escapedLength cs

/-- The escape of a character by its number, its digits following its letter. -/
def checkNumbered (start width : Nat) (sample : String) (cs : List Char) : Except String Unit :=
  let digits := (cs.take width).takeWhile isHexDigit
  if digits.length < width then
    .error (badEscape start (start + 2 + digits.length) ("truncated \\" ++ sample ++ " escape"))
  else if 0x110000 ≤ hexNumber digits then
    .error (badEscape start (start + 2 + width) "illegal Unicode character")
  else .ok ()

/-- The escape of a character by its name in braces. -/
def checkNamed (start : Nat) (cs : List Char) : Except String Unit :=
  let bad (length : Nat) (reason : String) : Except String Unit :=
    .error (badEscape start (start + 2 + length) reason)
  let malformed := "malformed \\N character escape"
  match cs with
  | '\x7b' :: rest =>
    let name := rest.takeWhile (· != '\x7d')
    let width := escapedLength name
    if rest.length == name.length then bad (width + 1) malformed
    else if name.isEmpty then bad 1 malformed
    else if Text.CharacterName.isKnown name then .ok ()
    else bad (width + 2) "unknown Unicode character name"
  | _ => bad 0 malformed

/-- Checks the escapes of a text from the place `start` on. -/
def checkEscapes (start : Nat) : List Char → Except String Unit
  | [] => .ok ()
  | ['\\'] => .ok ()
  | '\\' :: c :: cs => do
    if c == 'x' then checkNumbered start 2 "xXX" cs
    if c == 'u' then checkNumbered start 4 "uXXXX" cs
    if c == 'U' then checkNumbered start 8 "UXXXXXXXX" cs
    if c == 'N' then checkNamed start cs
    checkEscapes (start + slashWidth (some c) + escapedWidth c) cs
  | c :: cs => checkEscapes (start + escapedWidth c) cs

/-- Checks the escapes of bytes from the place `start` on. -/
def checkByteEscapes (start : Nat) : List Char → Except String Unit
  | [] => .ok ()
  | ['\\'] => .ok ()
  | '\\' :: c :: cs => do
    if c == 'x' && ((cs.take 2).takeWhile isHexDigit).length < 2 then
      throw ("(value error) invalid \\x escape at position " ++ toString start)
    checkByteEscapes (start + 2) cs
  | _ :: cs => checkByteEscapes (start + 1) cs

/-- What is wrong with a quotation before its fields are looked at. -/
def Quotation.checkPlain (quotation : Quotation) : Except String Unit :=
  let manner := quotation.manner
  if manner.bytes && quotation.body.any (0x80 ≤ ·.toNat) then
    .error "bytes can only contain ASCII literal characters"
  else if manner.formatted || manner.raw then .ok ()
  else if manner.bytes then checkByteEscapes 0 quotation.body
  else checkEscapes 0 quotation.body

/-- How a plain piece ends. -/
inductive PieceEnd
  /-- The quotation ends, or the format before its brace. -/
  | finished (rest : List Char)
  /-- A brace was doubled; another piece follows. -/
  | doubled (rest : List Char)
  | field (rest : List Char)
  | stray

def isBrace (c : Char) : Bool := c == '\x7b' || c == '\x7d'

/-- The end of a piece at a brace. A format has no doubled braces. -/
def braceEnd (inFormat : Bool) (piece : List Char) (brace : Char) (rest : List Char) :
    List Char × PieceEnd :=
  if !inFormat && rest.head? == some brace then
    ((brace :: piece).reverse, .doubled (rest.drop 1))
  else if brace == '\x7b' then (piece.reverse, .field rest)
  else if inFormat then (piece.reverse, .finished (brace :: rest))
  else (piece.reverse, .stray)

/-- A piece up to a brace; `piece` is what was read, reversed. Braces around the name of a character
do not count. -/
def readPiece (raw inFormat : Bool) : (inName : Bool) → (piece : List Char) → List Char →
    List Char × PieceEnd
  | _, piece, [] => (piece.reverse, .finished [])
  | true, piece, c :: cs => readPiece raw inFormat (c != '\x7d') (c :: piece) cs
  | false, piece, '\\' :: 'N' :: c :: cs =>
    if raw then
      if isBrace c then braceEnd inFormat ('N' :: '\\' :: piece) c cs
      else readPiece raw inFormat false (c :: 'N' :: '\\' :: piece) cs
    else readPiece raw inFormat (c == '\x7b') (c :: 'N' :: '\\' :: piece) cs
  | false, piece, '\\' :: c :: cs =>
    if isBrace c then braceEnd inFormat ('\\' :: piece) c cs
    else readPiece raw inFormat false (c :: '\\' :: piece) cs
  | false, piece, c :: cs =>
    if isBrace c then braceEnd inFormat piece c cs
    else readPiece raw inFormat false (c :: piece) cs

def openField : String := "f-string: expecting '\x7d'"

def strayBracket (c : Char) : String := "f-string: unmatched '" ++ String.singleton c ++ "'"

/-- What is open in the term of a field: a quotation, short or long, and brackets. -/
structure FieldState where
  quote : Option (Char × Bool)
  brackets : List Char
  blank : Bool

/-- The rest after the term of a field, from the character on that ends it. -/
def skipTerm (state : FieldState) : List Char → Except String (List Char)
  | [] => .error <| match state.quote, state.brackets with
    | some _, _ => "f-string: unterminated string"
    | none, bracket :: _ => strayBracket bracket
    | none, [] => openField
  | c :: cs =>
    if c == '\\' then .error "f-string expression part cannot include a backslash"
    else
      let filled := { state with blank := false }
      match state.quote with
      | some (quote, long) =>
        if c != quote then skipTerm state cs
        else if !long then skipTerm { state with quote := none } cs
        else match cs with
          | a :: b :: rest =>
            if a == quote && b == quote then skipTerm { state with quote := none } rest
            else skipTerm state (a :: b :: rest)
          | rest => skipTerm state rest
      | none =>
        if isQuote c then
          match cs with
          | a :: b :: rest =>
            if a == c && b == c then skipTerm { filled with quote := some (c, true) } rest
            else skipTerm { filled with quote := some (c, false) } (a :: b :: rest)
          | rest => skipTerm { filled with quote := some (c, false) } rest
        else if isOpening c then
          if bracketLimit ≤ state.brackets.length then
            .error "f-string: too many nested parenthesis"
          else skipTerm { filled with brackets := c :: state.brackets } cs
        else if c == '#' then .error "f-string expression part cannot include '#'"
        else if state.brackets.isEmpty && ['!', ':', '\x7d', '=', '>', '<'].contains c then
          match cs with
          | '=' :: rest =>
            if c == ':' || c == '\x7d' then endTerm (c :: '=' :: rest)
            else skipTerm filled rest
          | rest => if c == '>' || c == '<' then skipTerm filled rest else endTerm (c :: rest)
        else if isClosing c then
          match state.brackets with
          | [] => .error (strayBracket c)
          | bracket :: brackets =>
            if bracket == opening c then skipTerm { filled with brackets := brackets } cs
            else .error ("f-string: closing parenthesis '" ++ String.singleton c ++
              "' does not match opening parenthesis '" ++ String.singleton bracket ++ "'")
        else skipTerm
          { state with blank := state.blank && (c == ' ' || c == '\t' || c == '\n' || c == '\x0c') }
          cs
termination_by cs => cs.length
where
  endTerm (rest : List Char) : Except String (List Char) :=
    if !state.blank then .ok rest
    else .error <| match rest with
      | '\x7d' :: _ | [] => "f-string: empty expression not allowed"
      | c :: _ => "f-string: expression required before '" ++ String.singleton c ++ "'"

/-- Blanks that may follow the equals sign of a field. -/
def isPlainBlank (c : Char) : Bool := c == ' ' || (9 ≤ c.toNat && c.toNat ≤ 13)

/-- The rest after an equals sign that follows the term of a field, if there is one. -/
def skipEquals (cs : List Char) : Except String (List Char) :=
  match cs with
  | '=' :: rest =>
    match rest.dropWhile isPlainBlank with
    | [] => .error openField
    | rest => .ok rest
  | _ => .ok cs

/-- The rest after a conversion, if there is one. -/
def skipConversion (cs : List Char) : Except String (List Char) :=
  match cs with
  | '!' :: c :: rest =>
    if c == 's' || c == 'r' || c == 'a' then .ok rest
    else .error "f-string: invalid conversion character: expected 's', 'r', or 'a'"
  | ['!'] => .error openField
  | _ => .ok cs

def ofOwn (result : Except String α) : Reading α :=
  match result with
  | .ok value => return value
  | .error message => flaw message

/-- Reads a field after its brace, in a line, and gives what follows it. -/
def readField (reader : FieldReader) (format : List Char → Reading (Term × List Char))
    (line : Nat) (cs : List Char) : Reading (Term × List Char) := do
  let rest ← ofOwn (skipTerm ⟨none, [], true⟩ cs)
  let value ← reader line (cs.take (cs.length - rest.length))
  let rest ← ofOwn (skipEquals rest >>= skipConversion)
  let (format, rest) ← match rest with
    | [':'] => flaw openField
    | ':' :: rest => do
      let (format, rest) ← format rest
      pure (some format, rest)
    | rest => pure (none, rest)
  match rest with
  | '\x7d' :: rest => return (.field value format, rest)
  | _ => flaw openField

/-- How deep fields may stand in formats of fields. -/
def formatLimit : Nat := 2

/-- The fields of a formatted quotation, or of a format in it, and what follows. -/
def readFieldsUpTo (reader : FieldReader) (quotation : Quotation) : Nat → (formats : Nat) →
    List Char → Reading (List Term × List Char)
  | 0, _, cs => return ([], cs)
  | fuel + 1, formats, cs => do
    let (piece, ending) := readPiece quotation.manner.raw (formats != 0) false [] cs
    match ending with
    | .stray => flaw "f-string: single '\x7d' is not allowed"
    | .finished rest =>
      checkPiece piece
      return ([], rest)
    | .doubled rest =>
      checkPiece piece
      readFieldsUpTo reader quotation fuel formats rest
    | .field rest =>
      checkPiece piece
      if formatLimit ≤ formats then flaw "f-string: expressions nested too deeply"
      else
        let line := quotation.lastLine - rest.count '\n'
        let format (cs : List Char) : Reading (Term × List Char) := do
          let (fields, rest) ← readFieldsUpTo reader quotation fuel (formats + 1) cs
          if rest.isEmpty then flaw openField else return (.formatted fields, rest)
        let (field, rest) ← readField reader format line rest
        let (fields, rest) ← readFieldsUpTo reader quotation fuel formats rest
        return (field :: fields, rest)
where
  checkPiece (piece : List Char) : Reading Unit :=
    if quotation.manner.raw then return () else ofOwn (checkEscapes 0 piece)

def Quotation.readFields (reader : FieldReader) (quotation : Quotation) : Reading (List Term) := do
  if quotation.manner.formatted then
    let (fields, _) ←
      readFieldsUpTo reader quotation (quotation.body.length + 1) 0 quotation.body
    return fields
  else return []

/-- The fields of quotations that stand side by side and are one value. -/
def readEachQuotation (reader : FieldReader) :
    (bytes : Option Bool) → List Quotation → Reading (List Term)
  | _, [] => return []
  | bytes, quotation :: quotations => do
    ofOwn quotation.checkPlain
    if bytes.any (· != quotation.manner.bytes) then flaw "cannot mix bytes and nonbytes literals"
    let fields ← quotation.readFields reader
    return fields ++ (← readEachQuotation reader (some quotation.manner.bytes) quotations)

/-- The term that quotations side by side make. -/
def readQuotations (reader : FieldReader) (quotations : List Quotation) : Reading Term := do
  let fields ← readEachQuotation reader none quotations
  if quotations.any (·.manner.formatted) then return .formatted fields
  else if quotations.any (·.manner.bytes) then return .constant .bytes
  else return .constant .text

end FactIntake.Literal
