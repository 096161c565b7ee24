import FactIntake.Literal.Number

/-!
Tokens of the notation for values: words, numbers, quotations and marks.
-/

namespace FactIntake.Literal

/-- What the letters before a quotation make of it. -/
structure Manner where
  bytes : Bool := false
  raw : Bool := false
  plain : Bool := false
  formatted : Bool := false
deriving DecidableEq, Repr

/-- Quoted characters with their escapes as they are written. -/
structure Quotation where
  manner : Manner
  /-- Whether three quotes stand on either side. -/
  long : Bool
  body : List Char
  /-- The line in which the quotation ends. -/
  lastLine : Nat
deriving DecidableEq, Repr

inductive Kind
  | word (text : String)
  | number (number : Number)
  | quotation (quotation : Quotation)
  | mark (text : String)
  | lineEnd | indent | dedent
  /-- The end of the text. -/
  | finish
deriving DecidableEq, Repr

/-- A remark on a text that is not in the way of its meaning. -/
structure Warning where
  message : String
  line : Nat
deriving DecidableEq, Repr

def Warning.display (warning : Warning) : String :=
  "<unknown>:" ++ toString warning.line ++ ": SyntaxWarning: " ++ warning.message

structure Token where
  kind : Kind
  /-- How many brackets are open after the token. -/
  depth : Nat
  /-- The line in which the token begins. -/
  line : Nat
  /-- Whether only the end of the text shows where the token ends. -/
  isLast : Bool
  warning : Option String
deriving Repr

instance : Inhabited Token := ⟨⟨.finish, 0, 1, true, none⟩⟩

def Token.warnings (token : Token) : List Warning :=
  token.warning.toList.map fun message => ⟨message, token.line⟩

structure Bracket where
  char : Char
  line : Nat
deriving DecidableEq, Repr

def Bracket.unclosed (bracket : Bracket) : String :=
  "'" ++ String.singleton bracket.char ++ "' was never closed"

/-- The manner with one more letter, if the letter can stand there. -/
def Manner.extend? (manner : Manner) (c : Char) : Option Manner :=
  let lower := c.toLower
  if lower == 'b' && !(manner.bytes || manner.plain || manner.formatted) then
    some { manner with bytes := true }
  else if lower == 'u' && manner == {} then some { manner with plain := true }
  else if lower == 'r' && !(manner.raw || manner.plain) then some { manner with raw := true }
  else if lower == 'f' && !(manner.formatted || manner.bytes || manner.plain) then
    some { manner with formatted := true }
  else none

def isQuote (c : Char) : Bool := c == '\'' || c == '"'

/-- The quotation that letters and a quote open, from the quote on. -/
def openedQuotation? (manner : Manner) : List Char → Option (Manner × List Char)
  | [] => none
  | c :: cs =>
    if isQuote c then some (manner, c :: cs)
    else (manner.extend? c).bind fun manner => openedQuotation? manner cs

def unterminated (long : Bool) (line : Nat) : String :=
  "unterminated " ++ (if long then "triple-quoted string" else "string") ++
    " literal (detected at line " ++ toString line ++ ")"

/-- What a quotation holds, what follows it, and the line at its end. -/
structure Quoted where
  long : Bool
  body : List Char
  rest : List Char
  line : Nat

/-- Goes on to the closing quotes; `body` is what was read before, reversed. -/
def readBody (quote : Char) (long : Bool) (line : Nat) (body : List Char) :
    List Char → Except String Quoted
  | [] | ['\\'] => .error (unterminated long line)
  | '\\' :: c :: cs =>
    readBody quote long (if c == '\n' then line + 1 else line) (c :: '\\' :: body) cs
  | c :: cs =>
    if c == '\n' then
      if long then readBody quote long (line + 1) (c :: body) cs
      else .error (unterminated long line)
    else if c == quote && (!long || [quote, quote].isPrefixOf cs) then
      .ok ⟨long, body.reverse, if long then cs.drop 2 else cs, line⟩
    else readBody quote long line (c :: body) cs

/-- A quotation from its opening quotes on; three quotes open a long one. -/
def readQuotation (line : Nat) (quote : Char) (cs : List Char) : Except String Quoted :=
  match cs with
  | a :: b :: rest =>
    if a == quote && b == quote then readBody quote true line [] rest
    else readBody quote false line [] cs
  | _ => readBody quote false line [] cs

def longMarks : List (List Char) := [
  "**=", "//=", ">>=", "<<=", "...",
  "!=", "%=", "&=", "**", "*=", "+=", "-=", "->", "//", "/=", ":=", "<<", "<=", "<>", "==", ">=",
  ">>", "@=", "^=", "|="].map String.toList

def opening (closing : Char) : Char :=
  if closing == ')' then '(' else if closing == ']' then '[' else '{'

def isOpening (c : Char) : Bool := c == '(' || c == '[' || c == '{'
def isClosing (c : Char) : Bool := c == ')' || c == ']' || c == '}'

/-- The most brackets in one another. -/
def bracketLimit : Nat := 200

/-- The open brackets after a mark of one character. -/
def bracketsAfter (brackets : List Bracket) (line : Nat) (c : Char) :
    Except String (List Bracket) :=
  if isOpening c then
    if bracketLimit ≤ brackets.length then .error "too many nested parentheses"
    else .ok (⟨c, line⟩ :: brackets)
  else if isClosing c then
    match brackets with
    | [] => .error ("unmatched '" ++ String.singleton c ++ "'")
    | bracket :: brackets =>
      if bracket.char == opening c then .ok brackets
      else
        let mismatch := "closing parenthesis '" ++ String.singleton c ++
          "' does not match opening parenthesis '" ++ String.singleton bracket.char ++ "'"
        .error (if bracket.line == line then mismatch
          else mismatch ++ " on line " ++ toString bracket.line)
  else .ok brackets

end FactIntake.Literal
