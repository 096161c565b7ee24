/-!
Blank characters, and the two operations that look at them: trimming both ends of a text and
splitting a text into its words. Besides the Unicode separators, the four information separators
U+001C to U+001F are blank.
-/

namespace FactIntake.Text

def isBlank (c : Char) : Bool :=
  let n := c.toNat
  (9 ≤ n && n ≤ 13) || (28 ≤ n && n ≤ 32) || n == 0x85 || n == 0xA0 || n == 0x1680 ||
    (0x2000 ≤ n && n ≤ 0x200A) || n == 0x2028 || n == 0x2029 || n == 0x202F || n == 0x205F ||
    n == 0x3000

/-- Drops the trailing elements that satisfy `p`. -/
def dropTrailing (p : Char → Bool) (cs : List Char) : List Char :=
  (cs.reverse.dropWhile p).reverse

def stripChars (cs : List Char) : List Char :=
  dropTrailing isBlank (cs.dropWhile isBlank)

/-- The text without the blanks at its two ends. -/
def strip (s : String) : String :=
  String.ofList (stripChars s.toList)

/-- Splits at every element that satisfies `p`; the pieces may be empty and there is at least
one. -/
def splitWhere (p : Char → Bool) : List Char → List (List Char)
  | [] => [[]]
  | c :: cs =>
    if p c then [] :: splitWhere p cs
    else match splitWhere p cs with
      | [] => [[c]]
      | piece :: pieces => (c :: piece) :: pieces

theorem splitWhere_ne_nil (p : Char → Bool) (cs : List Char) : splitWhere p cs ≠ [] := by
  cases cs with
  | nil => simp [splitWhere]
  | cons c cs =>
    unfold splitWhere
    split
    · simp
    · split <;> simp

/-- The pieces of a text between the occurrences of a mark, empty pieces included. -/
def pieces (mark : Char) (s : String) : List String :=
  (splitWhere (· == mark) s.toList).map String.ofList

/-- The maximal runs of characters that are not blank. -/
def words (s : String) : List String :=
  ((splitWhere isBlank s.toList).filter (!·.isEmpty)).map String.ofList

/-- Position of the first occurrence of a non-empty pattern, counted in characters. -/
def findFrom (pattern : List Char) : List Char → Nat → Option Nat
  | [], _ => none
  | c :: cs, position =>
    if pattern.isPrefixOf (c :: cs) then some position else findFrom pattern cs (position + 1)

def find? (pattern text : String) : Option Nat :=
  findFrom pattern.toList text.toList 0

end FactIntake.Text
