import FactIntake.Decimal.Numeral
import FactIntake.Text.Identifier
import FactIntake.Text.Quoted

/-!
Words and numbers of the notation for values. A number is not to run into a word; the few words that
may follow a number may do so without a space, but not without a warning.
-/

namespace FactIntake.Literal

inductive Number
  /-- A whole number, and how many digits it has if it is written in tens and is not zero. -/
  | whole (value digits : Nat)
  | real | imaginary
deriving DecidableEq, Repr

def isLatinLetter (c : Char) : Bool := ('a' ≤ c && c ≤ 'z') || ('A' ≤ c && c ≤ 'Z')

/-- Characters that stand in one word, be they allowed in names or not. -/
def joinsWord (c : Char) : Bool := isLatinLetter c || c == '_' || c.isDigit || 0x80 ≤ c.toNat

/-- The first character that no name has in its place. -/
def strayChar? : List Char → Option Char
  | [] => none
  | c :: cs =>
    if Text.beginsName c then cs.find? fun d => !Text.continuesName d else some c

def codePoint (c : Char) : String :=
  let digits := (Nat.toDigits 16 c.toNat).map Char.toUpper
  "U+" ++ String.ofList (List.replicate (4 - digits.length) '0' ++ digits)

def nonPrintable (c : Char) : String := "invalid non-printable character " ++ codePoint c

def strayText (c : Char) : String :=
  if Text.isShowable c then
    "invalid character '" ++ String.singleton c ++ "' (" ++ codePoint c ++ ")"
  else nonPrintable c

def invalidLiteral (kind : String) : String := "invalid " ++ kind ++ " literal"

/-- A number that was read. -/
structure NumberRead where
  number : Number
  /-- What is to be said of a word that follows at once. -/
  warning : Option String
  rest : List Char

/-- Words that may follow a number without a space. -/
def numberFollowers : List (List Char) := ["and", "else", "for", "not", "or"].map String.toList

/-- Whether a word that may follow a number begins here. Those with an i are not read to the end. -/
def followsNumber (cs : List Char) : Bool :=
  match cs with
  | 'i' :: c :: _ => c == 'f' || c == 'n' || c == 's'
  | _ => numberFollowers.any fun word =>
      word.isPrefixOf cs && !(cs[word.length]?).any joinsWord

/-- A number is not to run into a word. -/
def checkEnd (kind : String) (number : Number) (rest : List Char) : Except String NumberRead :=
  if followsNumber rest then .ok ⟨number, some (invalidLiteral kind), rest⟩
  else if rest.head?.any joinsWord then .error (invalidLiteral kind)
  else .ok ⟨number, none, rest⟩

/-- The digits from the second on, which single underscores may part. -/
def moreDigits : List Char → Except String (List Char × List Char)
  | '_' :: c :: cs =>
    if c.isDigit then (moreDigits cs).map fun (digits, rest) => (c :: digits, rest)
    else .error (invalidLiteral "decimal")
  | ['_'] => .error (invalidLiteral "decimal")
  | c :: cs =>
    if c.isDigit then (moreDigits cs).map fun (digits, rest) => (c :: digits, rest)
    else .ok ([], c :: cs)
  | [] => .ok ([], [])

/-- The end of a number that may have an imaginary unit. -/
def readUnit (number : Number) (cs : List Char) : Except String NumberRead :=
  match cs with
  | 'j' :: rest | 'J' :: rest => checkEnd "imaginary" .imaginary rest
  | _ => checkEnd "decimal" number cs

/-- The exponent after its letter, if there is one. -/
def readExponent (number : Number) (letter : Char) (cs : List Char) : Except String NumberRead :=
  let digits (cs : List Char) : Except String NumberRead := do
    let (_, rest) ← moreDigits cs
    readUnit .real rest
  match cs with
  | sign :: c :: rest =>
    if sign == '+' || sign == '-' then
      if c.isDigit then digits rest else .error (invalidLiteral "decimal")
    else if sign.isDigit then digits (c :: rest)
    else checkEnd "decimal" number (letter :: cs)
  | [c] =>
    if c == '+' || c == '-' then .error (invalidLiteral "decimal")
    else if c.isDigit then digits []
    else checkEnd "decimal" number (letter :: cs)
  | [] => checkEnd "decimal" number [letter]

/-- What follows the digits of a number. -/
def readTail (number : Number) (cs : List Char) : Except String NumberRead :=
  match cs with
  | 'e' :: rest => readExponent number 'e' rest
  | 'E' :: rest => readExponent number 'E' rest
  | _ => readUnit number cs

/-- What follows the point of a number. -/
def readFraction (cs : List Char) : Except String NumberRead :=
  match cs with
  | c :: rest =>
    if c.isDigit then do
      let (_, rest) ← moreDigits rest
      readTail .real rest
    else readTail .real cs
  | [] => readTail .real cs

def isHexDigit (c : Char) : Bool :=
  c.isDigit || ('a' ≤ c && c ≤ 'f') || ('A' ≤ c && c ≤ 'F')

def digitValue (c : Char) : Nat := if c.isDigit then c.toNat - 48 else c.toLower.toNat - 87

/-- A base that is no ten, with the name of its numbers. -/
structure Base where
  kind : String
  size : Nat

def Base.hasDigit (base : Base) (c : Char) : Bool := isHexDigit c && digitValue c < base.size

/-- Digits of a base after their mark; the error is the character in the place of a digit. -/
def basedDigits (base : Base) : (expected : Bool) → (value : Nat) → List Char →
    Except (Option Char) (Nat × List Char)
  | true, value, c :: cs =>
    if base.hasDigit c then basedDigits base false (base.size * value + digitValue c) cs
    else .error c
  | true, _, [] => .error none
  | false, value, '_' :: cs => basedDigits base true value cs
  | false, value, c :: cs =>
    if base.hasDigit c then basedDigits base false (base.size * value + digitValue c) cs
    else .ok (value, c :: cs)
  | false, value, [] => .ok (value, [])

def badDigit (kind : String) (c : Char) : String :=
  "invalid digit '" ++ String.singleton c ++ "' in " ++ kind ++ " literal"

/-- A whole number of a base that is no ten. -/
def readBased (base : Base) (cs : List Char) : Except String NumberRead :=
  let digits := match cs with
    | '_' :: rest => rest
    | _ => cs
  match basedDigits base true 0 digits with
  | .error found => .error <| match found with
    | some c => if c.isDigit then badDigit base.kind c else invalidLiteral base.kind
    | none => invalidLiteral base.kind
  | .ok (value, rest) =>
    if rest.head?.any Char.isDigit then .error (badDigit base.kind (rest.head?.getD '0'))
    else checkEnd base.kind (.whole value 0) rest

def leadingZeros : String :=
  "leading zeros in decimal integer literals are not permitted; " ++
    "use an 0o prefix for octal integers"

/-- A number whose first digit is a zero and has been read. -/
def readFromZero (cs : List Char) : Except String NumberRead := do
  let (digits, rest) ← moreDigits cs
  match rest with
  | '.' :: after => readFraction after
  | _ =>
    if rest.head?.any fun c => ['e', 'E', 'j', 'J'].contains c then readTail (.whole 0 0) rest
    else if digits.any (· != '0') then .error leadingZeros
    else checkEnd "decimal" (.whole 0 0) rest

/-- The number that digits spell; the value of too many of them is of no use. -/
def wholeOf (digits : List Char) : Number :=
  let count := digits.length
  if Numeral.digitLimit < count then .whole 0 count
  else .whole (digits.foldl (fun value c => 10 * value + digitValue c) 0) count

/-- A number from its first digit on. -/
def readNumber (first : Char) (cs : List Char) : Except String NumberRead :=
  if first == '0' then
    match cs with
    | 'x' :: rest | 'X' :: rest => readBased ⟨"hexadecimal", 16⟩ rest
    | 'o' :: rest | 'O' :: rest => readBased ⟨"octal", 8⟩ rest
    | 'b' :: rest | 'B' :: rest => readBased ⟨"binary", 2⟩ rest
    | _ => readFromZero cs
  else do
    let (digits, rest) ← moreDigits cs
    match rest with
    | '.' :: after => readFraction after
    | _ => readTail (wholeOf (first :: digits)) rest

end FactIntake.Literal
