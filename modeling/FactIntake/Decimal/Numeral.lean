import FactIntake.Text.Quoted

/-!
Whole numbers from decimal digits. The digits of every script count; a numeral without digits, or
with more of them than a limit, is refused.
-/

namespace FactIntake.Numeral

/-- The zeros of all scripts; each begins a run of ten digits. -/
def zeros : List Nat := [
  0x30, 0x660, 0x6F0, 0x7C0, 0x966, 0x9E6, 0xA66, 0xAE6, 0xB66, 0xBE6, 0xC66, 0xCE6, 0xD66, 0xDE6,
  0xE50, 0xED0, 0xF20, 0x1040, 0x1090, 0x17E0, 0x1810, 0x1946, 0x19D0, 0x1A80, 0x1A90, 0x1B50,
  0x1BB0, 0x1C40, 0x1C50, 0xA620, 0xA8D0, 0xA900, 0xA9D0, 0xA9F0, 0xAA50, 0xABF0, 0xFF10,
  0x104A0, 0x10D30, 0x11066, 0x110F0, 0x11136, 0x111D0, 0x112F0, 0x11450, 0x114D0, 0x11650,
  0x116C0, 0x11730, 0x118E0, 0x11950, 0x11C50, 0x11D50, 0x11DA0, 0x16A60, 0x16AC0, 0x16B50,
  0x1D7CE, 0x1D7D8, 0x1D7E2, 0x1D7EC, 0x1D7F6, 0x1E140, 0x1E2F0, 0x1E950, 0x1FBF0]

def digit? (c : Char) : Option Nat :=
  (zeros.find? fun start => start ≤ c.toNat && c.toNat < start + 10).map (c.toNat - ·)

/-- The most digits that a numeral may have. -/
def digitLimit : Nat := 4300

inductive Refusal
  | notNumeral (text : List Char)
  | tooLong (digits : Nat)

def tooLongText (digits : Nat) : String :=
  s!"Exceeds the limit ({digitLimit} digits) for integer string conversion: value has {digits} " ++
    "digits; use sys.set_int_max_str_digits() to increase the limit"

/-- What is said of a number of too many digits that is to be spelled. -/
def unspelledText : String :=
  s!"Exceeds the limit ({digitLimit} digits) for integer string conversion; " ++
    "use sys.set_int_max_str_digits() to increase the limit"

def Refusal.message : Refusal → String
  | notNumeral text =>
    "invalid literal for int() with base 10: " ++ Text.quoted (String.ofList text)
  | tooLong digits => tooLongText digits

/-- The number that a text spells. -/
def read (cs : List Char) : Except Refusal Nat :=
  match cs.mapM digit? with
  | none => .error (.notNumeral cs)
  | some digits =>
    if digits.isEmpty then .error (.notNumeral cs)
    else if digits.length > digitLimit then .error (.tooLong digits.length)
    else .ok (digits.foldl (fun n digit => 10 * n + digit) 0)

end FactIntake.Numeral
