import FactIntake.Encoding.Flaw

/-!
UTF-8. The reader takes the shortest forms only, no surrogates and nothing above U+10FFFF; a flaw
covers the longest part of a sequence that some character could have begun with.
-/

namespace FactIntake.Encoding.Utf8

def isContinuation (b : UInt8) : Bool := 0x80 ≤ b && b ≤ 0xBF

/-- The bytes that may follow a lead byte of a sequence of three or four bytes. -/
def follows (lead second : UInt8) : Bool :=
  if lead == 0xE0 then 0xA0 ≤ second && second ≤ 0xBF
  else if lead == 0xED then 0x80 ≤ second && second ≤ 0x9F
  else if lead == 0xF0 then 0x90 ≤ second && second ≤ 0xBF
  else if lead == 0xF4 then 0x80 ≤ second && second ≤ 0x8F
  else isContinuation second

def payload (b : UInt8) : Nat := b.toNat % 64

def badStart (p : Nat) : Spot := ⟨p, p + 1, "invalid start byte"⟩
def badContinuation (p count : Nat) : Spot := ⟨p, p + count, "invalid continuation byte"⟩
def cutOff (p count : Nat) : Spot := ⟨p, p + count, "unexpected end of data"⟩

/-- Reads the bytes from position `p` on. -/
def decodeFrom (p : Nat) : Bytes → Except Spot (List Char)
  | [] => .ok []
  | a :: rest =>
    if a < 0x80 then
      (decodeFrom (p + 1) rest).map (Char.ofNat a.toNat :: ·)
    else if a < 0xC2 || 0xF4 < a then .error (badStart p)
    else if a < 0xE0 then
      match rest with
      | [] => .error (cutOff p 1)
      | b :: rest =>
        if !isContinuation b then .error (badContinuation p 1)
        else (decodeFrom (p + 2) rest).map
          (Char.ofNat ((a.toNat - 0xC0) * 64 + payload b) :: ·)
    else if a < 0xF0 then
      match rest with
      | [] => .error (cutOff p 1)
      | b :: rest =>
        if !follows a b then .error (badContinuation p 1)
        else match rest with
          | [] => .error (cutOff p 2)
          | c :: rest =>
            if !isContinuation c then .error (badContinuation p 2)
            else (decodeFrom (p + 3) rest).map
              (Char.ofNat (((a.toNat - 0xE0) * 64 + payload b) * 64 + payload c) :: ·)
    else
      match rest with
      | [] => .error (cutOff p 1)
      | b :: rest =>
        if !follows a b then .error (badContinuation p 1)
        else match rest with
          | [] => .error (cutOff p 2)
          | c :: rest =>
            if !isContinuation c then .error (badContinuation p 2)
            else match rest with
              | [] => .error (cutOff p 3)
              | d :: rest =>
                if !isContinuation d then .error (badContinuation p 3)
                else (decodeFrom (p + 4) rest).map
                  (Char.ofNat ((((a.toNat - 0xF0) * 64 + payload b) * 64 + payload c) * 64
                    + payload d) :: ·)

def decode (bytes : Bytes) : Except Flaw (List Char) :=
  (decodeFrom 0 bytes).mapError (·.flaw "utf-8" bytes)

def encode (cs : List Char) : Bytes := cs.flatMap String.utf8EncodeChar

/-- The mark that may stand at the start of a byte string. -/
def mark : Bytes := [0xEF, 0xBB, 0xBF]

/-- Reads the bytes after the mark, if it is there; positions start after it. -/
def decodeSigned (bytes : Bytes) : Except Flaw (List Char) :=
  decode (if mark.isPrefixOf bytes then bytes.drop 3 else bytes)

/-- A file that ends within the mark holds no text. -/
def decodeSignedFile (bytes : Bytes) : Except Flaw (List Char) :=
  if bytes.length < 3 && bytes.isPrefixOf mark then .ok [] else decodeSigned bytes

end FactIntake.Encoding.Utf8
