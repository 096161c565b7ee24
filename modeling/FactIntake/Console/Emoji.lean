import FactIntake.Console.EmojiNames
import FactIntake.Text.Lowercase

/-!
Emoji codes: a name between colons stands for a character if the name is known, in capital or small
letters. A name may end in the variant that is asked for. An unknown name stays as it is.
-/

namespace FactIntake.Console

inductive Variant
  | picture | text
deriving DecidableEq

def Variant.suffix : Variant → List Char
  | picture => "-emoji:".toList
  | text => "-text:".toList

def Variant.selector : Variant → Char
  | picture => Char.ofNat 0xFE0F
  | text => Char.ofNat 0xFE0E

structure EmojiCode where
  name : List Char
  variant : Option Variant
  rest : List Char

def dropHead? (head cs : List Char) : Option (List Char) :=
  if head.isPrefixOf cs then some (cs.drop head.length) else none

/-- The code after an opening colon: the shortest name without blanks that a colon ends. -/
def codeFrom (name : List Char) : List Char → Option EmojiCode
  | [] => none
  | c :: cs =>
    match dropHead? Variant.picture.suffix (c :: cs), dropHead? Variant.text.suffix (c :: cs) with
    | some rest, _ => some ⟨name.reverse, some .picture, rest⟩
    | none, some rest => some ⟨name.reverse, some .text, rest⟩
    | none, none =>
      if c == ':' then some ⟨name.reverse, none, cs⟩
      else if Text.isBlank c then none
      else codeFrom (c :: name) cs

/-- The characters that a code stands for. -/
def EmojiCode.shown? (code : EmojiCode) : Option (List Char) :=
  (EmojiNames.find? (String.ofList (Text.lowerChars code.name))).map fun shown =>
    shown.toList ++ (code.variant.map Variant.selector).toList

def replaceEmojiUpTo : Nat → List Char → List Char
  | 0, cs => cs
  | _, [] => []
  | fuel + 1, c :: cs =>
    if c != ':' then c :: replaceEmojiUpTo fuel cs
    else match codeFrom [] cs with
      | none => c :: replaceEmojiUpTo fuel cs
      | some code =>
        let written := c :: cs.take (cs.length - code.rest.length)
        code.shown?.getD written ++ replaceEmojiUpTo fuel code.rest

/-- The text with every known emoji code replaced. -/
def replaceEmoji (cs : List Char) : List Char := replaceEmojiUpTo cs.length cs

end FactIntake.Console
