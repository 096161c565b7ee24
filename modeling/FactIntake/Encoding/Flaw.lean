/-!
Where and why a byte string is no encoded text.
-/

namespace FactIntake.Encoding

abbrev Bytes := List UInt8

/-- The bytes from `start` up to `stop` fit no character. Decoding gives positions in the bytes; a
flaw that another program reports may give any. -/
structure Flaw where
  codec : String
  bytes : Bytes
  start : Int
  stop : Int
  reason : String
deriving DecidableEq, Repr

/-- A flaw before the codec and the whole byte string are known. -/
structure Spot where
  start : Nat
  stop : Nat
  reason : String

def Spot.flaw (spot : Spot) (codec : String) (bytes : Bytes) : Flaw :=
  ⟨codec, bytes, spot.start, spot.stop, spot.reason⟩

end FactIntake.Encoding
