import FactIntake.Encoding
import FactIntake.Text.Quoted

/-!
Characters that an encoding has no bytes for, and how it refuses them: the first run of such
characters counts, with its place.
-/

namespace FactIntake.Encoding

/-- The characters beyond the first half that single bytes stand for. -/
def windowsExtra : List Nat := [
  0x20AC, 0x201A, 0x192, 0x201E, 0x2026, 0x2020, 0x2021, 0x2C6, 0x2030, 0x160, 0x2039, 0x152,
  0x17D, 0x2018, 0x2019, 0x201C, 0x201D, 0x2022, 0x2013, 0x2014, 0x2DC, 0x2122, 0x161, 0x203A,
  0x153, 0x17E, 0x178]

def hasCharacter : Encoding → Char → Bool
  | ascii, c => c.toNat < 0x80
  | latin1, c => c.toNat < 0x100
  | windows1252, c =>
    c.toNat < 0x80 || (0xA0 ≤ c.toNat && c.toNat < 0x100) || windowsExtra.contains c.toNat
  | _, _ => true

/-- The name that an encoding refuses under, and the reason that it gives. -/
def refusalWords : Encoding → String × String
  | ascii => ("ascii", "ordinal not in range(128)")
  | latin1 => ("latin-1", "ordinal not in range(256)")
  | _ => ("charmap", "character maps to <undefined>")

def escaped (c : Char) : String :=
  if c.toNat < 0x100 then "\\x" ++ String.ofList (Text.hexDigits 2 c.toNat)
  else if c.toNat < 0x10000 then "\\u" ++ String.ofList (Text.hexDigits 4 c.toNat)
  else "\\U" ++ String.ofList (Text.hexDigits 8 c.toNat)

/-- What is said of the first run of characters without bytes, if there is one. -/
def firstMissing? (hasCharacter : Char → Bool) (name reason : String) (cs : List Char) : Option String :=
  let start := (cs.takeWhile hasCharacter).length
  let run := (cs.drop start).takeWhile (!hasCharacter ·)
  let refusal (what place : String) : String :=
    "'" ++ name ++ "' codec can't encode " ++ what ++ " in position " ++ place ++ ": " ++ reason
  match run with
  | [] => none
  | [c] => some (refusal ("character '" ++ escaped c ++ "'") (toString start))
  | _ => some (refusal "characters"
      (toString start ++ "-" ++ toString (start + run.length - 1)))

def missing? (encoding : Encoding) (cs : List Char) : Option String :=
  let (name, reason) := encoding.refusalWords
  firstMissing? encoding.hasCharacter name reason cs

/-- Why an encoding has no bytes for a text. -/
def unencodable? (encoding : Encoding) (cs : List Char) : Option Unencoded :=
  match encoding with
  | undefined => some (.refused "undefined encoding")
  | other codec => codec.encode cs
  | encoding => (encoding.missing? cs).map .missing

end FactIntake.Encoding
