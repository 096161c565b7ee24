import FactIntake.Encoding.Flaw

/-!
Encodings that come from elsewhere. A program may know more encodings than those that are spelled out
here; of such a one only matters what it makes of bytes and of texts. Bytes that are there at once and the
bytes of a file are decoded on their own, and where both make a text it is the same.
-/

namespace FactIntake

namespace Encoding

/-- Why bytes are no text. -/
inductive Undecoded
  | flawed (flaw : Flaw)
  /-- Without an order mark the byte order of a file in the named encoding is not known. -/
  | orderUnknown (name : String)
  /-- The encoding gives no text; `remedy` names what can use it. -/
  | notText (remedy : String)
  /-- The encoding refuses a file for a reason that gives no place. -/
  | refused (reason : String)
  /-- The encoding refuses, for such a reason, bytes that are decoded at once. -/
  | failed (reason : String)
deriving DecidableEq

abbrev Decoded := Except Undecoded (List Char)

/-- Why a text has no bytes: some of its characters have none, or a reason that gives no place. -/
inductive Unencoded
  | missing (message : String)
  | refused (reason : String)
deriving DecidableEq

/-- Why an encoding from elsewhere makes no text of bytes. -/
inductive Refusal
  | flawed (flaw : Flaw)
  | told (reason : String)

def Refusal.undecoded (tell : String → Undecoded) : Refusal → Undecoded
  | flawed flaw => .flawed flaw
  | told reason => tell reason

structure Codec where
  /-- Whether decoding with it gives text. -/
  isText : Bool
  decode : Bytes → Except Refusal (List Char)
  decodeFile : Bytes → Except Refusal (List Char)
  encode : List Char → Option Unencoded
  /-- No bytes are no text. -/
  decode_nil : decode [] = .ok []
  /-- A file has the text that its bytes have, if it has one and they do. -/
  agrees : ∀ {bytes found read}, decode bytes = .ok found → decodeFile bytes = .ok read → found = read

end Encoding

/-- The encodings that a program knows beside those that are spelled out here, by name. -/
class Codecs where
  find? : String → Option Encoding.Codec

/-- Where nothing is said of other encodings there are none. -/
instance Codecs.none : Codecs := ⟨fun _ => Option.none⟩

end FactIntake
