import FactIntake.Encoding.Decoding
import FactIntake.Proofs.Results

/-!
Decoding a file against decoding its bytes. Where the bytes decode, a file that can be opened as text
has the same characters, but for its line ends; it can be opened if its encoding gives text, other than the
undefined one, and if a UTF-16 or UTF-32 file that is not empty starts with an order mark. An encoding from
elsewhere says itself which files it decodes.
-/

namespace FactIntake.Text

/-- Each pair of carriage return and line feed as a line feed. -/
def joinPairs : List Char → List Char
  | [] => []
  | '\r' :: '\n' :: cs => '\n' :: joinPairs cs
  | c :: cs => c :: joinPairs cs

/-- A carriage return as a line feed. -/
def lineFeed (c : Char) : Char := if c == '\r' then '\n' else c

/-- The text with a line feed for each pair and for each carriage return that is left. -/
def newlined (text : String) : String := String.ofList ((joinPairs text.toList).map lineFeed)

/-- Uniform line ends come from the pairs first, and then from each carriage return that is left. -/
theorem uniformLines_eq (cs : List Char) : uniformLines cs = (joinPairs cs).map lineFeed := by
  fun_induction joinPairs cs with
  | case1 => rfl
  | case2 cs ih => simp [uniformLines, ih, lineFeed]
  | case3 c cs hpair ih =>
    rw [uniformLines, ih, List.map_cons, lineFeed]
    exact hpair

end FactIntake.Text

namespace FactIntake.Encoding

variable {encoding : Encoding} {bytes : Bytes} {cs : List Char}

/-- Whether a file with these bytes is opened as text. -/
def opensAsText (encoding : Encoding) (bytes : Bytes) : Bool :=
  match encoding with
  | utf16 => bytes.isEmpty || (Utf16.orderMark? bytes).isSome
  | utf32 => bytes.isEmpty || (Utf32.orderMark? bytes).isSome
  | undefined => false
  | other codec => codec.isText && (codec.decodeFile bytes).isOk
  | encoding => encoding.isText

theorem isText_of_opensAsText (h : encoding.opensAsText bytes) : encoding.isText := by
  cases encoding with
  | hexadecimal | rotated | base64 | deflated | blockSorted | uuencoded | quotedPrintable =>
    simp [opensAsText, isText] at h
  | other codec => exact (Bool.and_eq_true_iff.mp h).1
  | _ => rfl

/-- Where an encoding from elsewhere makes a text of the bytes, it makes that one of a file that it
decodes. -/
theorem Codec.decodeFile_of_isOk {codec : Codec} (hfile : (codec.decodeFile bytes).isOk)
    (h : codec.decode bytes = .ok cs) : codec.decodeFile bytes = .ok cs := by
  cases hread : codec.decodeFile bytes with
  | ok read => rw [codec.agrees h hread]
  | error refusal =>
    rw [hread] at hfile
    cases hfile

/-- In an encoding from elsewhere bytes have the text that this makes of them. -/
theorem decode_other_eq_ok_iff {codec : Codec} (hkind : codec.isText) :
    decode (.other codec) bytes = .ok cs ↔ codec.decode bytes = .ok cs := by
  cases bytes with
  | nil =>
    have hdecode : decode (.other codec) [] = .ok [] := rfl
    rw [hdecode, codec.decode_nil]
    simp
  | cons b rest =>
    have hdecode : decode (.other codec) (b :: rest) =
        (codec.decode (b :: rest)).mapError (·.undecoded .failed) := by
      simp [decode, hkind]
    rw [hdecode]
    cases codec.decode (b :: rest) <;> simp

/-- A part of the order mark that is not empty is no text. -/
theorem decodeSigned_of_short {b : UInt8} {rest : Bytes} (hlength : (b :: rest).length < 3)
    (hmark : (b :: rest).isPrefixOf Utf8.mark) :
    ∃ flaw, Utf8.decodeSigned (b :: rest) = .error flaw := by
  match rest, hlength with
  | [], _ =>
    obtain rfl : b = 0xEF := by simpa [Utf8.mark, List.isPrefixOf] using hmark
    exact ⟨_, rfl⟩
  | [c], _ =>
    obtain ⟨rfl, rfl⟩ : b = 0xEF ∧ c = 0xBB := by
      simpa [Utf8.mark, List.isPrefixOf] using hmark
    exact ⟨_, rfl⟩

private theorem decodeSignedFile_of_ok (h : decode .utf8Signed bytes = .ok cs) :
    ofFlawed (Utf8.decodeSignedFile bytes) = .ok cs := by
  cases bytes with
  | nil => exact h
  | cons b rest =>
    have hsigned : ofFlawed (Utf8.decodeSigned (b :: rest)) = .ok cs := h
    by_cases hshort : (b :: rest).length < 3 ∧ (b :: rest).isPrefixOf Utf8.mark
    · obtain ⟨flaw, hflaw⟩ := decodeSigned_of_short hshort.1 hshort.2
      simp [hflaw, ofFlawed] at hsigned
    · have hfile : Utf8.decodeSignedFile (b :: rest) = Utf8.decodeSigned (b :: rest) := by
        rw [Utf8.decodeSignedFile, if_neg (by simpa using hshort)]
      rw [hfile]
      exact hsigned

/-- Bytes that decode without an order mark and are not empty make a whole unit. -/
private theorem unit_le_length :
    (decode .utf16 bytes = .ok cs → bytes ≠ [] → 2 ≤ bytes.length) ∧
      (decode .utf32 bytes = .ok cs → bytes ≠ [] → 4 ≤ bytes.length) := by
  constructor
  · intro h hbytes
    match bytes with
    | [] => exact absurd rfl hbytes
    | [b] =>
      simp [decode, Utf16.decode, Utf16.orderMark?, Utf16.decodeOrder, Utf16.decodeFrom, ofFlawed] at h
    | _ :: _ :: _ => simp
  · intro h hbytes
    match bytes with
    | [] => exact absurd rfl hbytes
    | [_] | [_, _] | [_, _, _] =>
      simp [decode, Utf32.decode, Utf32.orderMark?, Utf32.decodeOrder, Utf32.decodeFrom, ofFlawed] at h
    | _ :: _ :: _ :: _ :: _ => simp

theorem requireMark_ok (name : String) {size : Nat} {marked : Bool}
    (h : bytes.isEmpty || marked) (hsize : 0 < size) :
    requireMark name size marked bytes (.ok cs) = .ok cs := by
  have hread : (!marked && decide (size ≤ bytes.length)) = false := by
    cases bytes with
    | nil => simp [Nat.not_le.mpr hsize]
    | cons b rest =>
      have hmarked : marked = true := by simpa using h
      rw [hmarked, Bool.not_true, Bool.false_and]
  simp only [requireMark, hread, Bool.false_eq_true, if_false]

/-- A file that is opened as text has the characters that its bytes have. -/
theorem decodeFileRaw_of_opensAsText (hopens : encoding.opensAsText bytes)
    (h : encoding.decode bytes = .ok cs) : encoding.decodeFileRaw bytes = .ok cs := by
  cases encoding with
  | utf8Signed => exact decodeSignedFile_of_ok h
  | utf16 =>
    rw [decodeFileRaw, h]
    exact requireMark_ok _ hopens (by decide)
  | utf32 =>
    rw [decodeFileRaw, h]
    exact requireMark_ok _ hopens (by decide)
  | undefined => simp [opensAsText] at hopens
  | other codec =>
    obtain ⟨hkind, hfile⟩ := Bool.and_eq_true_iff.mp hopens
    rw [decodeFileRaw, Codec.decodeFile_of_isOk hfile ((decode_other_eq_ok_iff hkind).mp h)]
    rfl
  | _ => exact h

/-- A file that is not opened as text though its encoding gives text is refused. -/
theorem decodeFileRaw_of_not_opensAsText (hkind : encoding.isText)
    (hopens : encoding.opensAsText bytes = false) (h : encoding.decode bytes = .ok cs) :
    ∃ undecoded, encoding.decodeFileRaw bytes = .error undecoded := by
  cases encoding with
  | utf16 =>
    obtain ⟨hbytes, hmark⟩ : bytes ≠ [] ∧ Utf16.orderMark? bytes = none := by
      simpa [opensAsText] using hopens
    have hlength := unit_le_length.1 h hbytes
    exact ⟨.orderUnknown "UTF-16", by simp [decodeFileRaw, requireMark, h, hmark, hlength]⟩
  | utf32 =>
    obtain ⟨hbytes, hmark⟩ : bytes ≠ [] ∧ Utf32.orderMark? bytes = none := by
      simpa [opensAsText] using hopens
    have hlength := unit_le_length.2 h hbytes
    exact ⟨.orderUnknown "UTF-32", by simp [decodeFileRaw, requireMark, h, hmark, hlength]⟩
  | undefined => exact ⟨.refused "undefined encoding", rfl⟩
  | hexadecimal | rotated | base64 | deflated | blockSorted | uuencoded | quotedPrintable =>
    simp [isText] at hkind
  | other codec =>
    have hfile : (codec.decodeFile bytes).isOk = false := by
      simpa [opensAsText, show codec.isText from hkind] using hopens
    cases hread : codec.decodeFile bytes with
    | ok read =>
      rw [hread] at hfile
      cases hfile
    | error refusal => exact ⟨refusal.undecoded .refused, by rw [decodeFileRaw, hread]; rfl⟩
  | _ => simp [opensAsText, isText] at hopens

end FactIntake.Encoding
