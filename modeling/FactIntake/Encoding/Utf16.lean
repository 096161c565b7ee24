import FactIntake.Encoding.Flaw

/-!
UTF-16, in either byte order. A character above U+FFFF is a high surrogate followed by a low one.
-/

namespace FactIntake.Encoding.Utf16

inductive Order
  | little | big
deriving DecidableEq

def Order.codec : Order → String
  | little => "utf-16-le"
  | big => "utf-16-be"

def Order.unit : Order → UInt8 → UInt8 → Nat
  | little, a, b => b.toNat * 256 + a.toNat
  | big, a, b => a.toNat * 256 + b.toNat

def isHigh (u : Nat) : Bool := 0xD800 ≤ u && u < 0xDC00
def isLow (u : Nat) : Bool := 0xDC00 ≤ u && u < 0xE000

def paired (high low : Nat) : Nat := 0x10000 + (high - 0xD800) * 0x400 + (low - 0xDC00)

/-- Reads the bytes from position `p` on. -/
def decodeFrom (order : Order) (p : Nat) : Bytes → Except Spot (List Char)
  | [] => .ok []
  | [_] => .error ⟨p, p + 1, "truncated data"⟩
  | a :: b :: rest =>
    let u := order.unit a b
    if isLow u then .error ⟨p, p + 2, "illegal encoding"⟩
    else if isHigh u then
      match rest with
      | c :: d :: rest =>
        let v := order.unit c d
        if isLow v then (decodeFrom order (p + 4) rest).map (Char.ofNat (paired u v) :: ·)
        else .error ⟨p, p + 2, "illegal UTF-16 surrogate"⟩
      | [_] => .error ⟨p, p + 3, "unexpected end of data"⟩
      | [] => .error ⟨p, p + 2, "unexpected end of data"⟩
    else (decodeFrom order (p + 2) rest).map (Char.ofNat u :: ·)

def decodeOrder (order : Order) (bytes : Bytes) : Except Flaw (List Char) :=
  (decodeFrom order 0 bytes).mapError (·.flaw order.codec bytes)

/-- The byte order that a mark at the start of the bytes announces. -/
def orderMark? : Bytes → Option Order
  | 0xFF :: 0xFE :: _ => some .little
  | 0xFE :: 0xFF :: _ => some .big
  | _ => none

/-- Reads the bytes after the order mark; without one they are little-endian. -/
def decode (bytes : Bytes) : Except Flaw (List Char) :=
  match orderMark? bytes with
  | some order =>
    (decodeFrom order 2 (bytes.drop 2)).mapError (·.flaw order.codec bytes)
  | none => decodeOrder .little bytes

end FactIntake.Encoding.Utf16
