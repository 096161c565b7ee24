import FactIntake.Fault
import FactIntake.Import.Layout

/-!
Templates with percent signs, filled with one text. After a percent sign come flags, a width, a
precision and a size, and then the code of what is to be shown. The text is shown at the first code
that shows something, and has to be shown.
-/

namespace FactIntake.Import.Percent

def incomplete : Fault := .valueFault "incomplete format"
def tooFew : Fault := .typeFault "not enough arguments for format string"
def tooMany : Fault := .typeFault "not all arguments converted during string formatting"

/-- The largest precision. -/
def precisionLimit : Nat := Nat.pow 2 31 - 1

/-- The number in front, if it is not above the limit. -/
def takeNumber (limit : Nat) (tooBig : String) (cs : List Char) : Except Fault (List Char) :=
  let digits := cs.takeWhile (·.isDigit)
  let n := digits.foldl (fun n digit => 10 * n + (digit.toNat - '0'.toNat)) 0
  if n > limit then .error (.valueFault tooBig) else .ok (cs.drop digits.length)

/-- A width or precision that is to be taken from the text. -/
def starFault (used : Bool) : Fault := if used then tooFew else .typeFault "* wants int"

def takeAmount (used : Bool) (limit : Nat) (tooBig : String) :
    List Char → Except Fault (List Char)
  | '*' :: _ => .error (starFault used)
  | cs => takeNumber limit tooBig cs

/-- What stands before the code. -/
def skipShape (used : Bool) (cs : List Char) : Except Fault (List Char) := do
  if cs.head? == some '(' then throw (Fault.typeFault "format requires a mapping")
  let cs := cs.dropWhile fun c => ['-', '+', ' ', '#', '0'].contains c
  let cs ← takeAmount used Layout.sizeLimit "width too big" cs
  let cs ← match cs with
    | '.' :: rest => takeAmount used precisionLimit "precision too big" rest
    | cs => pure cs
  return match cs with
    | c :: rest => if ['h', 'l', 'L'].contains c then rest else c :: rest
    | [] => []

/-- Why a code cannot show a text, whose place in the template is given. -/
def codeFault? (code : Char) (place : Nat) (argument : String) : Option Fault :=
  let wanted (what : String) : Option Fault := some <| .typeFault
    ("%" ++ code.toString ++ " format: " ++ what ++ " is required, not str")
  if ['s', 'r', 'a'].contains code then none
  else if ['d', 'i', 'u'].contains code then wanted "a real number"
  else if ['o', 'x', 'X'].contains code then wanted "an integer"
  else if ['e', 'E', 'f', 'F', 'g', 'G'].contains code then
    some (.typeFault "must be real number, not str")
  else if code == 'c' then
    if argument.length == 1 then none else some (.typeFault "%c requires int or char")
  else
    let shown := if 31 ≤ code.toNat && code.toNat < 126 then code else '?'
    some <| .valueFault ("unsupported format character '" ++ shown.toString ++ "' (0x" ++
      String.ofList (Nat.toDigits 16 code.toNat) ++ ") at index " ++ Json.intText place)

/-- Why a template of the given size cannot be filled from here on. -/
def troubleFrom (size : Nat) (argument : String) : Nat → Bool → List Char → Option Fault
  | 0, _, _ => none
  | fuel + 1, used, cs =>
    match (cs.dropWhile (· != '%')).drop 1, cs.contains '%' with
    | _, false => if used then none else some tooMany
    | '%' :: rest, true => troubleFrom size argument fuel used rest
    | rest, true =>
      match skipShape used rest with
      | .error fault => some fault
      | .ok [] => some incomplete
      | .ok (code :: rest) =>
        if used then some tooFew
        else match codeFault? code (size - rest.length - 1) argument with
          | some fault => some fault
          | none => troubleFrom size argument fuel true rest

/-- Why a template cannot be filled with a text. -/
def trouble? (template argument : String) : Option Fault :=
  let cs := template.toList
  troubleFrom cs.length argument (cs.length + 1) false cs

end FactIntake.Import.Percent
