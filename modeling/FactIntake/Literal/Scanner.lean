import FactIntake.Literal.Token
import FactIntake.Text.Lines

/-!
Scanning goes on to the end of a text or to the first place where no token begins. In brackets the
ends of lines do not count; outside of them they do, and so does the indentation of the next line.
-/

namespace FactIntake.Literal

/-- How scanning ends. -/
inductive Ending
  | complete
  /-- What follows the tokens can begin none. -/
  | flawed (message : String)
  /-- The text breaks off, within the innermost open bracket if there is one. -/
  | broken (message : String) (bracket : Option Bracket)
deriving Repr

structure Scan where
  tokens : Array Token
  ending : Ending

/-- How far a line is indented: with a tab going to the next multiple of eight, and with a tab
counting as one. -/
structure Indent where
  columns : Nat
  narrow : Nat
deriving DecidableEq, Repr

structure Scanner where
  line : Nat
  brackets : List Bracket
  /-- The indents that are open, the innermost first; the last is none at all. -/
  indents : List Indent
  atLineStart : Bool

/-- The scanner at the start of a text that begins in a line. -/
def Scanner.start (line : Nat) : Scanner := ⟨line, [], [⟨0, 0⟩], true⟩

inductive Step
  | tokens (kinds : List Kind) (warning : Option String) (scanner : Scanner) (rest : List Char)
  | stop (ending : Ending)

/-- A step that makes no token. -/
def Step.on (scanner : Scanner) (rest : List Char) : Step := .tokens [] none scanner rest

def straySlash : String := "unexpected character after line continuation character"

def breakOff (scanner : Scanner) : Ending :=
  match scanner.brackets.head? with
  | some bracket => .broken bracket.unclosed bracket
  | none => .broken "unexpected EOF while parsing" none

/-- Goes on after a backslash, which has to end its line and must not end the text. -/
def continued (scanner : Scanner) (cs : List Char) : Except Ending (Scanner × List Char) :=
  match cs with
  | ['\n'] => .error (breakOff scanner)
  | '\n' :: rest => .ok ({ scanner with line := scanner.line + 1 }, rest)
  | _ => .error (.broken straySlash scanner.brackets.head?)

/-- The indent of a line, and what follows it. The first backslash behind a blank fixes the indent
to `fixed` columns; as long as there is none that number is zero. -/
def measureUpTo : Nat → Scanner → Indent → (fixed : Nat) → List Char →
    Except Ending (Scanner × Indent × List Char)
  | 0, scanner, indent, _, cs => .ok (scanner, indent, cs)
  | fuel + 1, scanner, indent, fixed, cs =>
    match cs with
    | ' ' :: rest => measureUpTo fuel scanner ⟨indent.columns + 1, indent.narrow + 1⟩ fixed rest
    | '\t' :: rest =>
      measureUpTo fuel scanner ⟨(indent.columns / 8 + 1) * 8, indent.narrow + 1⟩ fixed rest
    | '\x0c' :: rest => measureUpTo fuel scanner ⟨0, 0⟩ fixed rest
    | '\\' :: rest => do
      let (scanner, rest) ← continued scanner rest
      measureUpTo fuel scanner indent (if fixed == 0 then indent.columns else fixed) rest
    | _ => .ok (scanner, if fixed == 0 then indent else ⟨fixed, fixed⟩, cs)

def mixedTabs : String := "inconsistent use of tabs and spaces in indentation"
def strayDedent : String := "unindent does not match any outer indentation level"
def deepIndent : String := "too many levels of indentation"

/-- The most indents in one another, counting the one that is none. -/
def indentLimit : Nat := 100

/-- The tokens that an indent makes, and the indents that are open then. -/
def indentTokens (indents : List Indent) (indent : Indent) :
    Except String (List Kind × List Indent) :=
  let current := indents.head?.getD ⟨0, 0⟩
  if indent.columns == current.columns then
    if indent.narrow == current.narrow then .ok ([], indents) else .error mixedTabs
  else if current.columns < indent.columns then
    if indentLimit ≤ indents.length then .error deepIndent
    else if indent.narrow ≤ current.narrow then .error mixedTabs
    else .ok ([.indent], indent :: indents)
  else
    let kept := indents.dropWhile fun outer => indent.columns < outer.columns
    match kept.head? with
    | some outer =>
      if outer.columns != indent.columns then .error strayDedent
      else if outer.narrow != indent.narrow then .error mixedTabs
      else .ok (List.replicate (indents.length - kept.length) .dedent, kept)
    | none => .error strayDedent

def dropComment (cs : List Char) : List Char :=
  match cs with
  | '#' :: rest => rest.dropWhile (· != '\n')
  | _ => cs

/-- One step at the start of a line: blank lines are skipped. -/
def lineStart (scanner : Scanner) (cs : List Char) : Step :=
  match measureUpTo (cs.length + 1) scanner ⟨0, 0⟩ 0 cs with
  | .error ending => .stop ending
  | .ok (scanner, indent, rest) =>
    let isBlank := rest.head? == some '#' || rest.head? == some '\n'
    if isBlank then
      match dropComment rest with
      | '\n' :: after => .on { scanner with line := scanner.line + 1 } after
      | after => .on { scanner with atLineStart := false } after
    else if !scanner.brackets.isEmpty then .on { scanner with atLineStart := false } rest
    else match indentTokens scanner.indents indent with
      | .error message => .stop (.broken message none)
      | .ok (kinds, indents) =>
        .tokens kinds none { scanner with indents := indents, atLineStart := false } rest

def oneToken (scanner : Scanner) (kind : Kind) (rest : List Char) : Step :=
  .tokens [kind] none scanner rest

def wordStep (scanner : Scanner) (cs : List Char) : Step :=
  let chars := cs.takeWhile joinsWord
  let stray? := if chars.any (0x80 ≤ ·.toNat) then strayChar? chars else none
  match stray? with
  | some c => .stop (.flawed (strayText c))
  | none => oneToken scanner (.word (String.ofList chars)) (cs.dropWhile joinsWord)

def numberStep (scanner : Scanner) (read : Except String NumberRead) : Step :=
  match read with
  | .error message => .stop (.flawed message)
  | .ok read => .tokens [.number read.number] read.warning scanner read.rest

def markStep (scanner : Scanner) (c : Char) (cs : List Char) : Step :=
  match longMarks.find? fun mark => mark.isPrefixOf (c :: cs) with
  | some mark =>
    oneToken scanner (.mark (String.ofList mark)) ((c :: cs).drop mark.length)
  | none =>
    match bracketsAfter scanner.brackets scanner.line c with
    | .error message => .stop (.flawed message)
    | .ok brackets =>
      if Text.isShowable c then
        oneToken { scanner with brackets := brackets } (.mark (String.singleton c)) cs
      else .stop (.flawed (nonPrintable c))

def newlineStep (scanner : Scanner) (rest : List Char) : Step :=
  let next := { scanner with line := scanner.line + 1, atLineStart := true }
  .tokens (if scanner.brackets.isEmpty then [.lineEnd] else []) none next rest

/-- One step at a character. -/
def charStep (scanner : Scanner) (c : Char) (cs : List Char) : Step :=
  match openedQuotation? {} (c :: cs) with
  | some (manner, quote :: rest) =>
    match readQuotation scanner.line quote rest with
    | .error message => .stop (.flawed message)
    | .ok quoted => oneToken { scanner with line := quoted.line }
        (.quotation ⟨manner, quoted.long, quoted.body, quoted.line⟩) quoted.rest
  | _ =>
    if isLatinLetter c || c == '_' || 0x80 ≤ c.toNat then wordStep scanner (c :: cs)
    else if c == '\n' then newlineStep scanner cs
    else if c.isDigit then numberStep scanner (readNumber c cs)
    else if c == '.' && cs.head?.any Char.isDigit then numberStep scanner (readFraction cs)
    else if c == '\\' then
      match continued scanner cs with
      | .error ending => .stop ending
      | .ok (scanner, rest) => .on scanner rest
    else markStep scanner c cs

def step (scanner : Scanner) (cs : List Char) : Step :=
  if scanner.atLineStart then lineStart scanner cs
  else match dropComment (cs.dropWhile fun c => c == ' ' || c == '\t' || c == '\x0c') with
    | c :: rest => charStep scanner c rest
    | [] => if scanner.brackets.isEmpty then .stop .complete else .stop (breakOff scanner)

/-- Whether the end of the text has to be seen to know where a token ends. -/
def Kind.seesEnd (rest : List Char) : Kind → Bool
  | number _ => rest.isEmpty || numberFollowers.contains rest
  | quotation quoted => rest.isEmpty && !quoted.long && quoted.body.isEmpty
  | lineEnd => false
  | mark "." => rest.isEmpty || rest == ['.']
  | mark text => rest.isEmpty && text.length < 3
  | _ => rest.isEmpty

/-- Scans on from a scanner, with at most `fuel` steps. -/
def scanUpTo : Nat → Scanner → Array Token → List Char → Scan
  | 0, _, tokens, _ => ⟨tokens, .complete⟩
  | fuel + 1, scanner, tokens, cs =>
    match step scanner cs with
    | .stop .complete => ⟨tokens.push ⟨.finish, 0, scanner.line, true, none⟩, .complete⟩
    | .stop ending => ⟨tokens, ending⟩
    | .tokens kinds warning next rest =>
      let made := kinds.map fun kind =>
        Token.mk kind next.brackets.length scanner.line (kind.seesEnd rest) warning
      scanUpTo fuel next (tokens ++ made.toArray) rest

/-- The tokens of a text whose first line has a number. Every step but those at line starts reads a
character. -/
def scan (line : Nat) (cs : List Char) : Scan :=
  let cs := Text.uniformLines cs
  scanUpTo (2 * cs.length + 3) (.start line) #[] cs

end FactIntake.Literal
