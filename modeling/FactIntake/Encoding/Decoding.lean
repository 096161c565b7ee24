import FactIntake.Encoding
import FactIntake.Encoding.Utf8
import FactIntake.Encoding.Utf32
import FactIntake.Encoding.SingleByte
import FactIntake.Text.Lines

/-!
Decoding a byte string, and decoding a named file. A file differs in four ways: its line ends are
made uniform, a UTF-16 or UTF-32 file without an order mark is refused, one that ends within the mark of
signed UTF-8 is empty, and the undefined encoding refuses even an empty one. An encoding from elsewhere may
refuse files of its own accord.
-/

namespace FactIntake.Encoding

def ofFlawed (decoded : Except Flaw (List Char)) : Decoded := decoded.mapError .flawed

/-- The text of a byte string; an empty one is empty text in every encoding. -/
def decode (encoding : Encoding) (bytes : Bytes) : Decoded :=
  if bytes.isEmpty then .ok []
  else match encoding with
    | utf8 => ofFlawed (Utf8.decode bytes)
    | utf8Signed => ofFlawed (Utf8.decodeSigned bytes)
    | ascii => ofFlawed (SingleByte.decodeAscii bytes)
    | latin1 => .ok (SingleByte.decodeLatin1 bytes)
    | windows1252 => ofFlawed (SingleByte.decodeWindows1252 bytes)
    | utf16 => ofFlawed (Utf16.decode bytes)
    | utf16Little => ofFlawed (Utf16.decodeOrder .little bytes)
    | utf16Big => ofFlawed (Utf16.decodeOrder .big bytes)
    | utf32 => ofFlawed (Utf32.decode bytes)
    | utf32Little => ofFlawed (Utf32.decodeOrder .little bytes)
    | utf32Big => ofFlawed (Utf32.decodeOrder .big bytes)
    | undefined => .error (.failed "undefined encoding")
    | hexadecimal | rotated | base64 | deflated | blockSorted | uuencoded | quotedPrintable =>
      .error (.notText "codecs.decode()")
    | other codec =>
      if codec.isText then (codec.decode bytes).mapError (·.undecoded .failed)
      else .error (.notText "codecs.decode()")

/-- A file that has no order mark, and is long enough for one, is not decoded. -/
def requireMark (name : String) (size : Nat) (marked : Bool) (bytes : Bytes) (decoded : Decoded) :
    Decoded :=
  match decoded with
  | .ok cs => if !marked && size ≤ bytes.length then .error (.orderUnknown name) else .ok cs
  | .error undecoded => .error undecoded

/-- The characters of a file, its line ends as they are. -/
def decodeFileRaw (encoding : Encoding) (bytes : Bytes) : Decoded :=
  match encoding with
  | utf8Signed => ofFlawed (Utf8.decodeSignedFile bytes)
  | utf16 => requireMark "UTF-16" 2 (Utf16.orderMark? bytes).isSome bytes (decode utf16 bytes)
  | utf32 => requireMark "UTF-32" 4 (Utf32.orderMark? bytes).isSome bytes (decode utf32 bytes)
  | undefined => .error (.refused "undefined encoding")
  | other codec => (codec.decodeFile bytes).mapError (·.undecoded .refused)
  | _ => decode encoding bytes

def decodeFile (encoding : Encoding) (bytes : Bytes) : Decoded :=
  (decodeFileRaw encoding bytes).map Text.uniformLines

end FactIntake.Encoding
