import FactIntake.Text.Blank
import FactIntake.Text.CharacterNames.AToC
import FactIntake.Text.CharacterNames.DToL
import FactIntake.Text.CharacterNames.MToR
import FactIntake.Text.CharacterNames.SToZ

/-!
Names of characters. Most names are listed word by word: in a list of names a word stands before
the words that may follow it, which are in brackets, and a point stands for the end of the name.
The names of unified ideographs, of syllables of Hangul and of a few scripts are made by a rule.
-/

namespace FactIntake.Text.CharacterName

/-- The listed names, by their first letter. -/
def lists : List (Char × String) := open CharacterNames in [
  ('A', letterA), ('B', letterB), ('C', letterC), ('D', letterD), ('E', letterE), ('F', letterF),
  ('G', letterG), ('H', letterH), ('I', letterI), ('J', letterJ), ('K', letterK), ('L', letterL),
  ('M', letterM), ('N', letterN), ('O', letterO), ('P', letterP), ('Q', letterQ), ('R', letterR),
  ('S', letterS), ('T', letterT), ('U', letterU), ('V', letterV), ('W', letterW), ('X', letterX),
  ('Y', letterY), ('Z', letterZ)]

/-- A search in a list of names, character by character. -/
structure Search where
  /-- The words that are still to be found. -/
  sought : List (List Char)
  /-- The word that is being read, reversed. -/
  word : List Char
  /-- How many brackets are open after a word that was not sought. -/
  skipped : Nat
  /-- Whether the name is listed, once that is known. -/
  answer : Option Bool

/-- Whether the word that was read ends the name. -/
def Search.ends (search : Search) : Bool :=
  match search.sought with
  | [] => search.word == ['.']
  | [last] => search.word.reverse == last
  | _ => false

def Search.endWord (search : Search) : Search :=
  if search.word.isEmpty then search
  else if search.ends then { search with answer := some true } else { search with word := [] }

/-- Opens the brackets after the word that was read. -/
def Search.openWord (search : Search) : Search :=
  match search.sought with
  | next :: rest =>
    if search.word.reverse == next then { search with sought := rest, word := [] }
    else { search with word := [], skipped := 1 }
  | [] => { search with word := [], skipped := 1 }

def Search.step (search : Search) (c : Char) : Search :=
  if search.answer.isSome then search
  else if 0 < search.skipped then
    if c == '(' then { search with skipped := search.skipped + 1 }
    else if c == ')' then { search with skipped := search.skipped - 1 }
    else search
  else if c == ' ' || c == '\n' then search.endWord
  else if c == '(' then search.openWord
  else if c == ')' then
    let search := search.endWord
    { search with answer := search.answer.or (some false) }
  else { search with word := c :: search.word }

/-- Whether a name in capital letters is listed. -/
def isListed (name : List Char) : Bool :=
  match name.head?.bind fun first => lists.lookup first with
  | none => false
  | some list =>
    let search : Search := ⟨splitWhere (· == ' ') name, [], 0, none⟩
    (list.foldl Search.step search).endWord.answer == some true

def hexDigit? (c : Char) : Option Nat :=
  if c.isDigit then some (c.toNat - 48)
  else if 'A' ≤ c && c ≤ 'F' then some (c.toNat - 55)
  else none

/-- Digits and capital letters as a number to the base of sixteen. -/
def hexNumber? (cs : List Char) : Option Nat :=
  cs.foldlM (fun n c => (hexDigit? c).map (16 * n + ·)) 0

/-- Names that end in the number of their character, which lies in a range. -/
def numbered : List (String × Nat × Nat) := [
  ("CJK COMPATIBILITY IDEOGRAPH-", 0xF900, 0xFA6D),
  ("CJK COMPATIBILITY IDEOGRAPH-", 0xFA70, 0xFAD9),
  ("CJK COMPATIBILITY IDEOGRAPH-", 0x2F800, 0x2FA1D),
  ("KHITAN SMALL SCRIPT CHARACTER-", 0x18B00, 0x18CD5),
  ("NUSHU CHARACTER-", 0x1B170, 0x1B2FB)]

/-- The number that follows a stem, if it is written with all its digits and no more. -/
def numberAfter? (stem : String) (name : List Char) : Option Nat :=
  if stem.toList.isPrefixOf name then
    let digits := name.drop stem.length
    if digits.head? == some '0' then none else hexNumber? digits
  else none

def isNumbered (name : List Char) : Bool :=
  numbered.any fun (stem, first, last) =>
    (numberAfter? stem name).any fun n => first ≤ n && n ≤ last

def ideographStem : List Char := "CJK UNIFIED IDEOGRAPH-".toList

def ideographs : List (Nat × Nat) := [
  (0x3400, 0x4DBF), (0x4E00, 0x9FFF), (0x20000, 0x2A6DF), (0x2A700, 0x2B738), (0x2B740, 0x2B81D),
  (0x2B820, 0x2CEA1), (0x2CEB0, 0x2EBE0), (0x30000, 0x3134A)]

/-- Whether the digits of four or five places are the number of a unified ideograph. -/
def isIdeograph (digits : List Char) : Bool :=
  (digits.length == 4 || digits.length == 5) &&
    (hexNumber? digits).any fun n => ideographs.any fun (first, last) => first ≤ n && n ≤ last

def syllableStem : List Char := "HANGUL SYLLABLE ".toList

def leads : List String := [
  "G", "GG", "N", "D", "DD", "R", "M", "B", "BB", "S", "SS", "", "J", "JJ", "C", "K", "T", "P", "H"]

def vowels : List String := [
  "A", "AE", "YA", "YAE", "EO", "E", "YEO", "YE", "O", "WA", "WAE", "OE", "YO", "U", "WEO", "WE",
  "WI", "YU", "EU", "YI", "I"]

def tails : List String := [
  "", "G", "GG", "GS", "N", "NJ", "NH", "D", "L", "LG", "LM", "LB", "LS", "LT", "LP", "LH", "M",
  "B", "BS", "S", "SS", "NG", "J", "C", "K", "T", "P", "H"]

/-- The rest after the longest of the parts that a text begins with. -/
def afterLongest? (parts : List String) (cs : List Char) : Option (List Char) :=
  let found := (parts.map String.toList).filter (·.isPrefixOf cs)
  (found.map List.length).max?.map cs.drop

/-- Whether the letters spell one syllable. -/
def isSyllable (cs : List Char) : Bool :=
  (afterLongest? leads cs >>= afterLongest? vowels >>= afterLongest? tails) == some []

/-- Whether a character has the name. Small letters count as capital ones, but not where a rule
makes the names of a script as a whole. -/
def isKnown (name : List Char) : Bool :=
  if syllableStem.isPrefixOf name && isSyllable (name.drop syllableStem.length) then true
  else if ideographStem.isPrefixOf name then isIdeograph (name.drop ideographStem.length)
  else
    let capitals := name.map Char.toUpper
    isNumbered capitals || isListed capitals

end FactIntake.Text.CharacterName
