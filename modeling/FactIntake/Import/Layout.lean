import FactIntake.Decimal.Numeral

/-!
Layouts: how a value is to be shown in a field of a text. A layout is an alignment with a filling
character before it, a sign, the marks `z` and `#`, a zero, a width, a separator, a precision and
a code, each of which may be left out. Texts and whole numbers accept different ones.
-/

namespace FactIntake.Import

structure Layout where
  align : Option Char
  fill : Char
  sign : Option Char
  coerces : Bool
  alternate : Bool
  width : Nat
  separator : Option Char
  precision : Option Nat
  code : Option Char

namespace Layout

def isAlignment (c : Char) : Bool := ['<', '>', '=', '^'].contains c

/-- The alignment with the character before it, if any, and the rest. -/
def takeAlignment : List Char → Option Char × Option Char × List Char
  | fill :: align :: rest =>
    if isAlignment align then (some fill, some align, rest)
    else if isAlignment fill then (none, some fill, align :: rest)
    else (none, none, fill :: align :: rest)
  | [align] => if isAlignment align then (none, some align, []) else (none, none, [align])
  | [] => (none, none, [])

def takeMark (isMark : Char → Bool) : List Char → Option Char × List Char
  | c :: rest => if isMark c then (some c, rest) else (none, c :: rest)
  | [] => (none, [])

/-- A number that has more digits than a size may have. -/
def tooManyDigits : String := "Too many decimal digits in format string"

/-- The greatest size. -/
def sizeLimit : Nat := Nat.pow 2 63 - 1

/-- The number that digits of any script spell, if it is a size. -/
def sizeOf (digits : List Nat) : Except String Nat :=
  let n := digits.foldl (fun n digit => 10 * n + digit) 0
  if n > sizeLimit then .error tooManyDigits else .ok n

/-- The size in front, if there is one. -/
def takeSize (cs : List Char) : Except String (Option Nat × List Char) :=
  let digits := (cs.takeWhile fun c => (Numeral.digit? c).isSome).filterMap Numeral.digit?
  if digits.isEmpty then .ok (none, cs)
  else (sizeOf digits).map fun n => (some n, cs.drop digits.length)

def takeSeparator (cs : List Char) : Except String (Option Char × List Char) :=
  let (comma, cs) := takeMark (· == ',') cs
  let (underscore, cs) := takeMark (· == '_') cs
  let both := (comma.isSome && underscore.isSome) ||
    (underscore.isSome && cs.head? == some ',')
  if both then .error "Cannot specify both ',' and '_'."
  else .ok (comma.or underscore, cs)

def takePrecision : List Char → Except String (Option Nat × List Char)
  | '.' :: rest => do
    let (size, rest) ← takeSize rest
    match size with
    | none => .error "Format specifier missing precision"
    | some n => .ok (some n, rest)
  | cs => .ok (none, cs)

def shownCode (c : Char) : String :=
  if 32 < c.toNat && c.toNat < 128 then "'" ++ c.toString ++ "'"
  else "'\\x" ++ String.ofList (Nat.toDigits 16 c.toNat) ++ "'"

/-- Codes that a separator goes with. -/
def separates (separator : Char) (code : Char) : Bool :=
  ['d', 'e', 'f', 'g', 'E', 'G', '%', 'F', Char.ofNat 0].contains code ||
    (separator == '_' && ['b', 'o', 'x', 'X'].contains code)

def checkSeparator (separator : Option Char) (code : Char) : Except String Unit :=
  match separator with
  | none => .ok ()
  | some c =>
    if separates c code then .ok ()
    else .error ("Cannot specify '" ++ c.toString ++ "' with " ++ shownCode code ++ ".")

/-- Reads the layout of a value of a class. A text has a code without one being given. -/
def read (className : String) (cs : List Char) : Except String Layout := do
  let (fill, align, rest) := takeAlignment cs
  let (sign, rest) := takeMark (fun c => c == ' ' || c == '+' || c == '-') rest
  let (coerces, rest) := takeMark (· == 'z') rest
  let (alternate, rest) := takeMark (· == '#') rest
  let (zero, rest) := takeMark (fun c => fill.isNone && c == '0') rest
  let (width, rest) ← takeSize rest
  let (separator, rest) ← takeSeparator rest
  let (precision, rest) ← takePrecision rest
  if rest.length > 1 then
    .error ("Invalid format specifier '" ++ String.ofList cs ++ "' for object of type '" ++
      className ++ "'")
  let code := rest.head?
  checkSeparator separator (code.getD (if className == "str" then 's' else Char.ofNat 0))
  return ⟨align, fill.getD (if zero.isSome then '0' else ' '), sign, coerces.isSome,
    alternate.isSome, width.getD 0, separator, precision, code⟩

def unknownCode (className : String) (c : Char) : String :=
  "Unknown format code " ++ shownCode c ++ " for object of type '" ++ className ++ "'"

/-- Refuses what a layout asks for and a text does not have. -/
def checkText (layout : Layout) : Except String Unit := do
  match layout.code with
  | some c => if c != 's' then .error (unknownCode "str" c)
  | none => pure ()
  match layout.sign with
  | some ' ' => .error "Space not allowed in string format specifier"
  | some _ => .error "Sign not allowed in string format specifier"
  | none => pure ()
  if layout.coerces then
    .error "Negative zero coercion (z) not allowed in string format specifier"
  if layout.alternate then .error "Alternate form (#) not allowed in string format specifier"
  if layout.align == some '=' then
    .error "'=' alignment not allowed in string format specifier"

/-- The number of characters on the left, of those that are missing. -/
def leftShare (layout : Layout) (missing : Nat) : Nat :=
  match layout.align with
  | some '>' => missing
  | some '^' => missing / 2
  | _ => 0

/-- A text as a layout shows it. -/
def showText (layout : Layout) (text : List Char) : List Char :=
  let text := match layout.precision with
    | some n => text.take n
    | none => text
  let missing := layout.width - text.length
  let left := layout.leftShare missing
  List.replicate left layout.fill ++ text ++ List.replicate (missing - left) layout.fill

/-- The field that a text makes in a layout. -/
def ofText (layout : String) (text : String) : Except String String :=
  if layout.isEmpty then .ok text
  else do
    let read ← read "str" layout.toList
    read.checkText
    return String.ofList (read.showText text.toList)

/-- Refuses what a layout asks for and a whole number does not have. -/
def checkNumber (className : String) (layout : Layout) : Except String Unit :=
  match layout.code.getD 'd' with
  | 'c' =>
    if layout.precision.isSome then .error "Precision not allowed in integer format specifier"
    else if layout.coerces then
      .error "Negative zero coercion (z) not allowed in integer format specifier"
    else if layout.sign.isSome then
      .error "Sign not allowed with integer format specifier 'c'"
    else if layout.alternate then
      .error "Alternate form (#) not allowed with integer format specifier 'c'"
    else .ok ()
  | c =>
    if ['b', 'd', 'n', 'o', 'x', 'X'].contains c then
      if layout.precision.isSome then .error "Precision not allowed in integer format specifier"
      else if layout.coerces then
        .error "Negative zero coercion (z) not allowed in integer format specifier"
      else .ok ()
    else if ['e', 'E', 'f', 'F', 'g', 'G', '%'].contains c then .ok ()
    else .error (unknownCode className c)

/-- Why a layout makes no field of a value of a class. -/
def trouble? (className layout : String) : Option String :=
  let checked : Except String Unit := do
    let found ← read className layout.toList
    if className == "str" then found.checkText else found.checkNumber className
  match checked with
  | .error message => some message
  | .ok () => none

end Layout

end FactIntake.Import
