import FactIntake.Entries
import FactIntake.Json
import FactIntake.Decimal.Reading

/-!
Reading a value from text. The reader knows the infinities and the value that is no number, keeps
the last value of a repeated key, and reports the first place at which the text stops being a
document. Limits may bound the digits of whole numbers and the nesting of brackets. A surrogate
without a partner is read as the replacement character.
-/

namespace FactIntake.Json

/-- What is wrong with a document, and after how many of its characters. -/
structure Problem where
  reason : String
  position : Nat
deriving DecidableEq, Repr

/-- Values that hold other values. -/
inductive Container
  | array | object
deriving DecidableEq, Repr

/-- Why a text is not read. -/
inductive Unread
  | malformed (problem : Problem)
  /-- A whole number has so many digits. -/
  | longNumeral (digits : Nat)
  | tooDeep (container : Container)
deriving DecidableEq, Repr

/-- What is read at all; a bound that is absent does not hold. -/
structure Limits where
  digits : Option Nat
  /-- The most containers in one another. -/
  depth : Option Nat
deriving DecidableEq, Repr

def Limits.none : Limits := ⟨.none, .none⟩

def Limits.allowDigits (limits : Limits) (n : Nat) : Bool := limits.digits.all (n ≤ ·)

/-- The limits inside one more container, if one more is allowed. -/
def Limits.deeper (limits : Limits) (container : Container) : Except Unread Limits :=
  match limits.depth with
  | .none => .ok limits
  | some 0 => .error (.tooDeep container)
  | some (depth + 1) => .ok { limits with depth := some depth }

/-- The unread part of a document. -/
structure Cursor where
  position : Nat
  rest : List Char

abbrev Reading (α : Type) := Except Unread α

def problem (reason : String) (position : Nat) : Reading α :=
  .error (.malformed ⟨reason, position⟩)

def isSpace (c : Char) : Bool := c == ' ' || c == '\t' || c == '\n' || c == '\r'

def Cursor.skipSpace (cursor : Cursor) : Cursor :=
  let spaces := cursor.rest.takeWhile isSpace
  ⟨cursor.position + spaces.length, cursor.rest.dropWhile isSpace⟩

def hexValue? (c : Char) : Option Nat :=
  if '0' ≤ c && c ≤ '9' then some (c.toNat - 48)
  else if 'a' ≤ c && c ≤ 'f' then some (c.toNat - 87)
  else if 'A' ≤ c && c ≤ 'F' then some (c.toNat - 55)
  else none

/-- The value of four hexadecimal digits. -/
def unitOf? (a b c d : Char) : Option Nat := do
  let a ← hexValue? a
  let b ← hexValue? b
  let c ← hexValue? c
  let d ← hexValue? d
  return ((a * 16 + b) * 16 + c) * 16 + d

def isHighUnit (u : Nat) : Bool := 0xD800 ≤ u && u < 0xDC00
def isLowUnit (u : Nat) : Bool := 0xDC00 ≤ u && u < 0xE000

/-- The character of a unit that stands alone. -/
def loneUnit (u : Nat) : Char :=
  if isHighUnit u || isLowUnit u then Char.ofNat 0xFFFD else Char.ofNat u

def joinedUnits (high low : Nat) : Char :=
  Char.ofNat (0x10000 + (high - 0xD800) * 0x400 + (low - 0xDC00))

def simpleEscape? (c : Char) : Option Char :=
  if c == '"' || c == '\\' || c == '/' then some c
  else if c == 'b' then some (Char.ofNat 8)
  else if c == 'f' then some (Char.ofNat 12)
  else if c == 'n' then some '\n'
  else if c == 'r' then some '\r'
  else if c == 't' then some '\t'
  else none

def unterminated (start : Nat) : Reading α := problem "Unterminated string starting at" start
def badUnit (position : Nat) : Reading α := problem "Invalid \\uXXXX escape" position

/-- Reads a text whose opening quote was at `start`, from its next character at `p` on. -/
def readText (start p : Nat) : List Char → Reading (List Char × Cursor)
  | [] => unterminated start
  | '"' :: rest => .ok ([], ⟨p + 1, rest⟩)
  | ['\\'] => unterminated start
  | '\\' :: 'u' :: a :: b :: c :: d :: x :: rest =>
    match unitOf? a b c d with
    | none => badUnit (p + 1)
    | some u =>
      match x, rest with
      | '\\', 'u' :: e :: f :: g :: h :: y :: more =>
        match unitOf? e f g h with
        | none => badUnit (p + 7)
        | some v =>
          if isHighUnit u && isLowUnit v then
            (readText start (p + 12) (y :: more)).map fun (cs, at_end) =>
              (joinedUnits u v :: cs, at_end)
          else
            (readText start (p + 6) ('\\' :: 'u' :: e :: f :: g :: h :: y :: more)).map
              fun (cs, at_end) => (loneUnit u :: cs, at_end)
      | x, rest =>
        (readText start (p + 6) (x :: rest)).map fun (cs, at_end) => (loneUnit u :: cs, at_end)
  | '\\' :: 'u' :: _ => badUnit (p + 1)
  | '\\' :: c :: rest =>
    match simpleEscape? c with
    | some e => (readText start (p + 2) rest).map fun (cs, at_end) => (e :: cs, at_end)
    | none => problem "Invalid \\escape" p
  | c :: rest =>
    if c.toNat < 0x20 then problem "Invalid control character at" p
    else (readText start (p + 1) rest).map fun (cs, at_end) => (c :: cs, at_end)
termination_by cs => cs.length

/-- The leading digits, a single zero if the first is one. -/
def wholeDigits : List Char → List Char
  | '0' :: _ => ['0']
  | cs => cs.takeWhile Binary64.isDigit

/-- The digits after a point, if the point is followed by one. -/
def fractionDigits : List Char → List Char
  | '.' :: cs => cs.takeWhile Binary64.isDigit
  | _ => []

/-- The exponent, its letter included, if a digit follows the letter and the sign. -/
def exponentChars : List Char → List Char
  | c :: cs =>
    if c == 'e' || c == 'E' then
      let sign := match cs with
        | s :: _ => if s == '-' || s == '+' then [s] else []
        | [] => []
      let digits := (cs.drop sign.length).takeWhile Binary64.isDigit
      if digits.isEmpty then [] else c :: sign ++ digits
    else []
  | [] => []

/-- Reads a number, with or without a minus sign. -/
def readNumber (limits : Limits) (cursor : Cursor) : Reading (Json × Cursor) :=
  let negative := cursor.rest.head? == some '-'
  let cs := if negative then cursor.rest.drop 1 else cursor.rest
  let whole := wholeDigits cs
  if whole.isEmpty then problem "Expecting value" cursor.position
  else
    let afterWhole := cs.drop whole.length
    let fraction := fractionDigits afterWhole
    let fractionLength := if fraction.isEmpty then 0 else fraction.length + 1
    let exponent := exponentChars (afterWhole.drop fractionLength)
    let length := (if negative then 1 else 0) + whole.length + fractionLength + exponent.length
    let after : Cursor := ⟨cursor.position + length, cursor.rest.drop length⟩
    if fraction.isEmpty && exponent.isEmpty then
      if !limits.allowDigits whole.length then .error (.longNumeral whole.length)
      else
        let n := Binary64.natOf whole
        .ok (int (if negative then -(n : Int) else n), after)
    else
      let e := Binary64.intOf (exponent.drop 1)
      .ok (float (Binary64.ofParts negative whole fraction e), after)

def keywords : List (String × Json) := [
  ("null", null), ("true", bool true), ("false", bool false), ("NaN", float .nan),
  ("Infinity", float (.infinite false)), ("-Infinity", float (.infinite true))]

def readKeyword? (cursor : Cursor) : Option (Json × Cursor) :=
  (keywords.find? fun word => word.1.toList.isPrefixOf cursor.rest).map fun word =>
    (word.2, ⟨cursor.position + word.1.length, cursor.rest.drop word.1.length⟩)

mutual

/-- Reads a value; `fuel` bounds the number of values and of members. -/
def readValue (limits : Limits) (fuel : Nat) (cursor : Cursor) : Reading (Json × Cursor) :=
  match fuel with
  | 0 => problem "Expecting value" cursor.position
  | fuel + 1 =>
    match cursor.rest with
    | '"' :: rest =>
      (readText cursor.position (cursor.position + 1) rest).map fun (cs, after) =>
        (text (String.ofList cs), after)
    | '[' :: rest => do
      let limits ← limits.deeper .array
      let inner := Cursor.skipSpace ⟨cursor.position + 1, rest⟩
      match inner.rest with
      | ']' :: rest => return (array [], ⟨inner.position + 1, rest⟩)
      | _ =>
        let (items, after) ← readItems limits fuel inner
        return (array items, after)
    | '{' :: rest => do
      let limits ← limits.deeper .object
      let inner := Cursor.skipSpace ⟨cursor.position + 1, rest⟩
      match inner.rest with
      | '}' :: rest => return (object [], ⟨inner.position + 1, rest⟩)
      | _ =>
        let (members, after) ← readMembers limits fuel inner
        return (object (Entries.putAll [] members), after)
    | _ =>
      match readKeyword? cursor with
      | some found => .ok found
      | none => readNumber limits cursor

/-- Reads the items of an array that has at least one, up to its end. -/
def readItems (limits : Limits) (fuel : Nat) (cursor : Cursor) : Reading (List Json × Cursor) :=
  match fuel with
  | 0 => problem "Expecting value" cursor.position
  | fuel + 1 => do
    let (item, after) ← readValue limits fuel cursor
    let after := after.skipSpace
    match after.rest with
    | ']' :: rest => return ([item], ⟨after.position + 1, rest⟩)
    | ',' :: rest =>
      let (items, last) ← readItems limits fuel (Cursor.skipSpace ⟨after.position + 1, rest⟩)
      return (item :: items, last)
    | _ => problem "Expecting ',' delimiter" after.position

/-- Reads the members of an object that has at least one, up to its end. -/
def readMembers (limits : Limits) (fuel : Nat) (cursor : Cursor) :
    Reading (List (String × Json) × Cursor) :=
  match fuel with
  | 0 => problem "Expecting value" cursor.position
  | fuel + 1 =>
    match cursor.rest with
    | '"' :: rest => do
      let (key, after) ← readText cursor.position (cursor.position + 1) rest
      let after := after.skipSpace
      match after.rest with
      | ':' :: rest =>
        let (value, after) ← readValue limits fuel (Cursor.skipSpace ⟨after.position + 1, rest⟩)
        let after := after.skipSpace
        match after.rest with
        | '}' :: rest => return ([(String.ofList key, value)], ⟨after.position + 1, rest⟩)
        | ',' :: rest =>
          let (members, last) ←
            readMembers limits fuel (Cursor.skipSpace ⟨after.position + 1, rest⟩)
          return ((String.ofList key, value) :: members, last)
        | _ => problem "Expecting ',' delimiter" after.position
      | _ => problem "Expecting ':' delimiter" after.position
    | _ => problem "Expecting property name enclosed in double quotes" cursor.position

end

/-- Reads a document: one value with nothing but spaces around it. -/
def readDocument (limits : Limits) (cs : List Char) : Reading Json :=
  if cs.head? == some (Char.ofNat 0xFEFF) then
    problem "Unexpected UTF-8 BOM (decode using utf-8-sig)" 0
  else do
    let (value, after) ← readValue limits (2 * cs.length + 2) (Cursor.skipSpace ⟨0, cs⟩)
    let after := after.skipSpace
    if after.rest.isEmpty then return value
    else problem "Extra data" after.position

def read (limits : Limits) (s : String) : Reading Json := readDocument limits s.toList

/-- The problem with the line and the column at which it stands. -/
def Problem.message (p : Problem) (document : String) : String :=
  let before := document.toList.take p.position
  let line := before.count '\n' + 1
  let column := (before.reverse.takeWhile (· != '\n')).length + 1
  s!"{p.reason}: line {line} column {column} (char {p.position})"

end FactIntake.Json
