import FactIntake.Encoding.Codec
import FactIntake.Text.Blank

/-!
Names of text encodings. A name is looked up in small letters with every run of characters other
than ASCII letters, digits and points read as one underscore; the result is an alias, or the name
of the encoding itself. A name that still holds a point is an alias or nothing. A name that is none of
these may be that of an encoding from elsewhere.
-/

namespace FactIntake

/-- Those from `hexadecimal` to `quotedPrintable` are known by name but turn no bytes into text, and
`undefined` refuses them all. -/
inductive Encoding
  | utf8 | utf8Signed | ascii | latin1 | utf16 | utf16Little | utf16Big | windows1252
  | utf32 | utf32Little | utf32Big | undefined
  | hexadecimal | rotated | base64 | deflated | blockSorted | uuencoded | quotedPrintable
  | other (codec : Encoding.Codec)

namespace Encoding

def isAsciiAlnum (c : Char) : Bool :=
  ('0' ≤ c && c ≤ '9') || ('a' ≤ c && c ≤ 'z') || ('A' ≤ c && c ≤ 'Z')

def smallAscii (c : Char) : Char :=
  if 'A' ≤ c && c ≤ 'Z' then Char.ofNat (c.toNat + 32) else c

/-- The name in small letters, its separating runs as single underscores. -/
def plainName (name : List Char) : List Char :=
  let pieces := Text.splitWhere (fun c => !(isAsciiAlnum c || c == '.')) (name.map smallAscii)
  ['_'].intercalate (pieces.filter (!·.isEmpty))

def aliases : Encoding → List String
  | utf8 => ["u8", "utf", "utf8", "utf8_ucs2", "utf8_ucs4", "cp65001"]
  | utf8Signed => []
  | ascii => ["646", "ansi_x3.4_1968", "ansi_x3_4_1968", "ansi_x3.4_1986", "cp367", "csascii",
      "ibm367", "iso646_us", "iso_646.irv_1991", "iso_ir_6", "us", "us_ascii"]
  | latin1 => ["8859", "cp819", "csisolatin1", "ibm819", "iso8859", "iso8859_1", "iso_8859_1",
      "iso_8859_1_1987", "iso_ir_100", "l1", "latin", "latin1"]
  | utf16 => ["u16", "utf16"]
  | utf16Little => ["unicodelittleunmarked", "utf_16le"]
  | utf16Big => ["unicodebigunmarked", "utf_16be"]
  | windows1252 => ["1252", "windows_1252"]
  | utf32 => ["u32", "utf32"]
  | utf32Little => ["utf_32le"]
  | utf32Big => ["utf_32be"]
  | undefined => []
  | hexadecimal => ["hex"]
  | rotated => ["rot13"]
  | base64 => ["base64", "base_64"]
  | deflated => ["zip", "zlib"]
  | blockSorted => ["bz2"]
  | uuencoded => ["uu"]
  | quotedPrintable => ["quopri", "quoted_printable", "quotedprintable"]
  | other _ => []

def ownName : Encoding → String
  | utf8 => "utf_8"
  | utf8Signed => "utf_8_sig"
  | ascii => "ascii"
  | latin1 => "latin_1"
  | utf16 => "utf_16"
  | utf16Little => "utf_16_le"
  | utf16Big => "utf_16_be"
  | windows1252 => "cp1252"
  | utf32 => "utf_32"
  | utf32Little => "utf_32_le"
  | utf32Big => "utf_32_be"
  | undefined => "undefined"
  | hexadecimal => "hex_codec"
  | rotated => "rot_13"
  | base64 => "base64_codec"
  | deflated => "zlib_codec"
  | blockSorted => "bz2_codec"
  | uuencoded => "uu_codec"
  | quotedPrintable => "quopri_codec"
  | other _ => ""

/-- The encodings that are spelled out. -/
def all : List Encoding :=
  [utf8, utf8Signed, ascii, latin1, utf16, utf16Little, utf16Big, windows1252,
   utf32, utf32Little, utf32Big, undefined,
   hexadecimal, rotated, base64, deflated, blockSorted, uuencoded, quotedPrintable]

/-- The one of them that a name designates. -/
def known? (name : String) : Option Encoding :=
  let plain := plainName name.toList
  let underscored := plain.map fun c => if c == '.' then '_' else c
  let answersTo (cs : List Char) (e : Encoding) := e.aliases.contains (String.ofList cs)
  match all.find? (answersTo plain) with
  | some e => some e
  | none => match all.find? (answersTo underscored) with
    | some e => some e
    | none => all.find? (fun e => e.ownName == String.ofList plain)

/-- The encoding that a name designates. -/
def find? [Codecs] (name : String) : Option Encoding :=
  (known? name).or ((Codecs.find? name).map other)

/-- Whether decoding with it gives text. -/
def isText : Encoding → Bool
  | hexadecimal | rotated | base64 | deflated | blockSorted | uuencoded | quotedPrintable => false
  | other codec => codec.isText
  | _ => true

end Encoding

end FactIntake
