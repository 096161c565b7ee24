import FactIntake.Encoding.Flaw

/-!
Encodings in which every byte is one character.
-/

namespace FactIntake.Encoding.SingleByte

/-- Reads each byte by `table`; the first byte that it leaves out is the flaw. -/
def decodeFrom (table : UInt8 → Option Char) (reason : String) (p : Nat) :
    Bytes → Except Spot (List Char)
  | [] => .ok []
  | b :: rest =>
    match table b with
    | some c => (decodeFrom table reason (p + 1) rest).map (c :: ·)
    | none => .error ⟨p, p + 1, reason⟩

def ascii (b : UInt8) : Option Char :=
  if b < 0x80 then some (Char.ofNat b.toNat) else none

/-- The characters of the bytes 0x80 to 0x9F; a zero stands for a byte without a character. -/
def windowsUpper : List Nat := [
  0x20AC, 0, 0x201A, 0x192, 0x201E, 0x2026, 0x2020, 0x2021,
  0x2C6, 0x2030, 0x160, 0x2039, 0x152, 0, 0x17D, 0,
  0, 0x2018, 0x2019, 0x201C, 0x201D, 0x2022, 0x2013, 0x2014,
  0x2DC, 0x2122, 0x161, 0x203A, 0x153, 0, 0x17E, 0x178]

def windows1252 (b : UInt8) : Option Char :=
  if b < 0x80 || 0xA0 ≤ b then some (Char.ofNat b.toNat)
  else match windowsUpper[b.toNat - 0x80]? with
    | some 0 => none
    | some n => some (Char.ofNat n)
    | none => none

def decodeAscii (bytes : Bytes) : Except Flaw (List Char) :=
  (decodeFrom ascii "ordinal not in range(128)" 0 bytes).mapError (·.flaw "ascii" bytes)

def decodeLatin1 (bytes : Bytes) : List Char :=
  bytes.map fun b => Char.ofNat b.toNat

def decodeWindows1252 (bytes : Bytes) : Except Flaw (List Char) :=
  (decodeFrom windows1252 "character maps to <undefined>" 0 bytes).mapError
    (·.flaw "charmap" bytes)

end FactIntake.Encoding.SingleByte
