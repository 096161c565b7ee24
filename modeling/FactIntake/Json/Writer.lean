import FactIntake.Json
import FactIntake.Decimal.Shortest
import FactIntake.Text.Quoted

/-!
Writing a value as text: one member or item a line, two more spaces at each depth, empty brackets
closed at once. Texts are written in ASCII, every other character as escaped UTF-16 units, or with
all characters but controls, quotes and backslashes as they are.
-/

namespace FactIntake.Json

inductive Charset
  | ascii | raw
deriving DecidableEq

def escapedUnit (n : Nat) : List Char := '\\' :: 'u' :: Text.hexDigits 4 n

/-- One UTF-16 unit, or the two surrogates of a character above U+FFFF. -/
def escapedUnits (c : Char) : List Char :=
  if c.toNat < 0x10000 then escapedUnit c.toNat
  else
    let n := c.toNat - 0x10000
    escapedUnit (0xD800 + n / 0x400) ++ escapedUnit (0xDC00 + n % 0x400)

def Charset.keeps : Charset → Char → Bool
  | ascii, c => ' ' ≤ c && c ≤ '~'
  | raw, c => ' ' ≤ c

def escapeChar (charset : Charset) (c : Char) : List Char :=
  if c == '"' then ['\\', '"']
  else if c == '\\' then ['\\', '\\']
  else if charset.keeps c then [c]
  else if c == '\n' then ['\\', 'n']
  else if c == '\r' then ['\\', 'r']
  else if c == '\t' then ['\\', 't']
  else if c == Char.ofNat 8 then ['\\', 'b']
  else if c == Char.ofNat 12 then ['\\', 'f']
  else escapedUnits c

def textChars (charset : Charset) (s : String) : List Char :=
  '"' :: s.toList.flatMap (escapeChar charset) ++ ['"']

def natChars (n : Nat) : List Char := Nat.toDigits 10 n

def intChars (n : Int) : List Char :=
  if n < 0 then '-' :: natChars n.natAbs else natChars n.natAbs

def intText (n : Int) : String := String.ofList (intChars n)

/-- The spelling of a number that is not finite. -/
def floatChars : Binary64 → List Char
  | .nan => "NaN".toList
  | .infinite false => "Infinity".toList
  | .infinite true => "-Infinity".toList
  | x => x.showChars

def newline (depth : Nat) : List Char := '\n' :: List.replicate (2 * depth) ' '

mutual

/-- The text of a value at a depth, and `tail` after it. -/
def writeOnto (charset : Charset) (depth : Nat) : Json → List Char → List Char
  | null, tail => "null".toList ++ tail
  | bool true, tail => "true".toList ++ tail
  | bool false, tail => "false".toList ++ tail
  | int n, tail => intChars n ++ tail
  | float x, tail => floatChars x ++ tail
  | text s, tail => textChars charset s ++ tail
  | array items, tail =>
    match items with
    | [] => '[' :: ']' :: tail
    | item :: items =>
      '[' :: newline (depth + 1) ++ writeOnto charset (depth + 1) item
        (writeItemsOnto charset (depth + 1) items (newline depth ++ ']' :: tail))
  | object members, tail =>
    match members with
    | [] => '{' :: '}' :: tail
    | (key, value) :: members =>
      '{' :: newline (depth + 1) ++ textChars charset key ++ ':' :: ' ' ::
        writeOnto charset (depth + 1) value
          (writeMembersOnto charset (depth + 1) members (newline depth ++ '}' :: tail))

def writeItemsOnto (charset : Charset) (depth : Nat) : List Json → List Char → List Char
  | [], tail => tail
  | item :: items, tail =>
    ',' :: newline depth ++ writeOnto charset depth item (writeItemsOnto charset depth items tail)

def writeMembersOnto (charset : Charset) (depth : Nat) :
    List (String × Json) → List Char → List Char
  | [], tail => tail
  | (key, value) :: members, tail =>
    ',' :: newline depth ++ textChars charset key ++ ':' :: ' ' ::
      writeOnto charset depth value (writeMembersOnto charset depth members tail)

end

def writeChars (charset : Charset) (depth : Nat) (value : Json) : List Char :=
  writeOnto charset depth value []

/-- The document that holds a value. -/
def write (charset : Charset) (value : Json) : String :=
  String.ofList (writeChars charset 0 value)

/-- A flat value on one line, as a member of a log line. -/
def inlineChars : Json → List Char
  | text s => textChars .ascii s
  | value => writeChars .ascii 0 value

/-- An object of flat values on one line. -/
def writeInline (members : List (String × Json)) : String :=
  let member (m : String × Json) := textChars .ascii m.1 ++ ':' :: ' ' :: inlineChars m.2
  String.ofList ('{' :: [',', ' '].intercalate (members.map member) ++ ['}'])

end FactIntake.Json
