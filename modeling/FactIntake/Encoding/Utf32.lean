import FactIntake.Encoding.Utf16

/-!
UTF-32, in either byte order. A character is one number of four bytes, and no surrogate.
-/

namespace FactIntake.Encoding.Utf32

open Utf16 (Order isHigh isLow)

def codec : Order → String
  | .little => "utf-32-le"
  | .big => "utf-32-be"

def number : Order → UInt8 → UInt8 → UInt8 → UInt8 → Nat
  | .little, a, b, c, d => ((d.toNat * 256 + c.toNat) * 256 + b.toNat) * 256 + a.toNat
  | .big, a, b, c, d => ((a.toNat * 256 + b.toNat) * 256 + c.toNat) * 256 + d.toNat

/-- Reads the bytes from position `p` on. -/
def decodeFrom (order : Order) (p : Nat) : Bytes → Except Spot (List Char)
  | [] => .ok []
  | a :: b :: c :: d :: rest =>
    let n := number order a b c d
    if isHigh n || isLow n then
      .error ⟨p, p + 4, "code point in surrogate code point range(0xd800, 0xe000)"⟩
    else if 0x110000 ≤ n then .error ⟨p, p + 4, "code point not in range(0x110000)"⟩
    else (decodeFrom order (p + 4) rest).map (Char.ofNat n :: ·)
  | rest => .error ⟨p, p + rest.length, "truncated data"⟩

def decodeOrder (order : Order) (bytes : Bytes) : Except Flaw (List Char) :=
  (decodeFrom order 0 bytes).mapError (·.flaw (codec order) bytes)

/-- The byte order that a mark at the start of the bytes announces. -/
def orderMark? : Bytes → Option Order
  | 0xFF :: 0xFE :: 0 :: 0 :: _ => some .little
  | 0 :: 0 :: 0xFE :: 0xFF :: _ => some .big
  | _ => none

/-- Reads the bytes after the order mark; without one they are little-endian. -/
def decode (bytes : Bytes) : Except Flaw (List Char) :=
  match orderMark? bytes with
  | some order => (decodeFrom order 4 (bytes.drop 4)).mapError (·.flaw (codec order) bytes)
  | none => decodeOrder .little bytes

end FactIntake.Encoding.Utf32
