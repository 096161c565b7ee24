import FactIntake.Console.Emoji
import FactIntake.Console.Handler
import FactIntake.Console.Style

/-!
Markup in console text. A tag in brackets opens or closes a style and is not shown; backslashes
before a tag are halved, and an odd one turns the tag into plain text. Escaping doubles the
backslashes before every tag and adds one.
-/

namespace FactIntake.Console

/-- Whether a bracket before this character can begin a tag. -/
def beginsTag (c : Char) : Bool :=
  ('a' ≤ c && c ≤ 'z') || c == '#' || c == '/' || c == '@'

/-- What stands in the brackets of a tag, and what follows it; the argument starts after the
opening bracket. -/
def tagBody? (cs : List Char) : Option (List Char × List Char) :=
  let body := cs.takeWhile fun c => c != '[' && c != ']'
  match body.head?, cs.drop body.length with
  | some c, ']' :: rest => if beginsTag c then some (body, rest) else none
  | _, _ => none

/-- A tag at the start of a text, after any number of backslashes. -/
structure TagMatch where
  backslashes : Nat
  body : List Char
  rest : List Char

def tagMatch? (cs : List Char) : Option TagMatch :=
  let slashes := (cs.takeWhile (· == '\\')).length
  match cs.drop slashes with
  | '[' :: inner => (tagBody? inner).map fun (body, rest) => ⟨slashes, body, rest⟩
  | _ => none

def TagMatch.length (found : TagMatch) : Nat := found.backslashes + found.body.length + 2

def bracketed (body : List Char) : List Char := '[' :: body ++ [']']

inductive Piece
  | plain (cs : List Char)
  /-- A tag, and after how many characters of the markup it stands. -/
  | tag (position : Nat) (body : List Char)

def plainPiece (reversed : List Char) : List Piece :=
  if reversed.isEmpty then [] else [.plain reversed.reverse]

/-- The pieces of a tag with its backslashes. -/
def TagMatch.pieces (found : TagMatch) (position : Nat) : List Piece :=
  let kept := found.backslashes / 2
  let slashes := if kept == 0 then [] else [.plain (List.replicate kept '\\')]
  slashes ++
    (if found.backslashes % 2 == 1 then [.plain (bracketed found.body)]
     else [.tag (position + 2 * kept) found.body])

/-- Splits markup from `position` on; `plain` holds the plain characters before it, reversed. -/
def piecesUpTo : Nat → Nat → List Char → List Char → List Piece
  | 0, _, plain, _ => plainPiece plain
  | _, _, plain, [] => plainPiece plain
  | fuel + 1, position, plain, c :: cs =>
    match tagMatch? (c :: cs) with
    | some found =>
      plainPiece plain ++ found.pieces position ++
        piecesUpTo fuel (position + found.length) [] found.rest
    | none => piecesUpTo fuel (position + 1) (c :: plain) cs

def pieces (markup : List Char) : List Piece :=
  piecesUpTo (markup.length + 1) 0 [] markup

/-- Each backslash before an opening bracket dropped. -/
def unescapeBrackets : List Char → List Char
  | '\\' :: '[' :: cs => '[' :: unescapeBrackets cs
  | c :: cs => c :: unescapeBrackets cs
  | [] => []

/-- Why markup cannot be shown. -/
inductive MarkupFault
  | unmatched (body : List Char) (position : Nat)
  | nothingOpen (position : Nat)
  | handler (flaw : HandlerFlaw)
  | component (refusal : Numeral.Refusal)

def MarkupFault.className : MarkupFault → String
  | component _ => "ValueError"
  | _ => "MarkupError"

def MarkupFault.message : MarkupFault → String
  | unmatched body position =>
    "closing tag '" ++ String.ofList (bracketed body) ++ "' at position " ++ toString position ++
      " doesn't match any open tag"
  | nothingOpen position =>
    "closing tag '[/]' at position " ++ toString position ++ " has nothing to close"
  | handler flaw => flaw.message
  | component refusal => refusal.message

/-- The name of a tag, what stands before the equals sign. -/
def tagName (body : List Char) : List Char := body.takeWhile (· != '=')

/-- What stands after the equals sign, if there is one. -/
def tagParameters? (body : List Char) : Option (List Char) :=
  match body.dropWhile (· != '=') with
  | [] => none
  | _ :: parameters => some parameters

/-- A tag that is not closed yet, and after how many shown characters it stands. -/
structure OpenTag where
  start : Nat
  name : String
  parameters : Option (List Char)

/-- A run of shown characters in one style. -/
structure Span where
  start : Nat
  stop : Nat
  style : String

def OpenTag.style (tag : OpenTag) : String :=
  match tag.parameters with
  | some parameters => tag.name ++ " " ++ String.ofList parameters
  | none => tag.name

def OpenTag.spanTo (tag : OpenTag) (stop : Nat) : Span := ⟨tag.start, stop, tag.style⟩

def OpenTag.isHandler (tag : OpenTag) : Bool := tag.name.toList.head? == some '@'

/-- Rendering, which may give rise to warnings about the parameters of handlers. -/
abbrev Rendering := ExceptT MarkupFault (StateM (Array Literal.Warning))

def styleName (name : List Char) : Rendering String :=
  ExceptT.mk (pure ((Style.normal (String.ofList name)).mapError .component))

/-- Closes a tag after `stop` shown characters; a handler has no style, but parameters to read. -/
def closeTag (tag : OpenTag) (stop : Nat) : Rendering (List Span) := do
  if tag.isHandler then
    match ← handlerFlaw? (tag.parameters.getD []) with
    | some flaw => throw (.handler flaw)
    | none => return []
  else return [tag.spanTo stop]

/-- The open tags after a tag, the innermost first, and the span that it closes. -/
def applyTag (openTags : List OpenTag) (length position : Nat) (body : List Char) :
    Rendering (List OpenTag × List Span) := do
  match tagName body with
  | '/' :: name =>
    let name := Text.stripChars name
    if name.isEmpty then
      match openTags with
      | [] => throw (.nothingOpen position)
      | tag :: openTags => return (openTags, ← closeTag tag length)
    else
      let name ← styleName name
      match openTags.find? (·.name == name) with
      | none => throw (.unmatched body position)
      | some tag =>
        let closed ← closeTag tag length
        return (openTags.eraseP (·.name == name), closed)
  | name => return (⟨length, ← styleName name, tagParameters? body⟩ :: openTags, [])

/-- Controls that the console drops. -/
def isDropped (c : Char) : Bool := [7, 8, 11, 12, 13].contains c.toNat

/-- Plain text as it is shown: emoji for their codes, and no dropped controls. -/
def shownText (cs : List Char) : List Char := (replaceEmoji cs).filter (!isDropped ·)

/-- Shown characters with the spans among them. -/
structure Shown where
  text : List Char
  spans : List Span

/-- Renders pieces after `length` shown characters; the spans are in the order in which they are
closed. -/
def renderPieces (length : Nat) (openTags : List OpenTag) : List Piece → Rendering Shown
  | [] => return ⟨[], openTags.map (·.spanTo length)⟩
  | .plain cs :: rest => do
    let text := shownText (unescapeBrackets cs)
    let later ← renderPieces (length + text.length) openTags rest
    return { later with text := text ++ later.text }
  | .tag position body :: rest => do
    let (openTags, closed) ← applyTag openTags length position body
    let later ← renderPieces length openTags rest
    return { later with spans := closed ++ later.spans }

/-- Whether a span is looked at: every span of a text in one part, else those with a character in a
line. -/
def Shown.looksAt (shown : Shown) (span : Span) : Bool :=
  !shown.text.any (fun c => c == '\n' || c == '\t') ||
    ((shown.text.take span.stop).drop span.start).any (· != '\n')

/-- The spans from the first to start to the last; of those that start together, the last to be
closed comes first. -/
def Shown.inOrder (shown : Shown) : List Span :=
  shown.spans.reverse.mergeSort fun a b => a.start ≤ b.start

def Shown.refusal? (shown : Shown) : Option Numeral.Refusal :=
  (shown.inOrder.filter shown.looksAt).findSome? fun span => Style.refusal? span.style

/-- The characters that markup shows. -/
def render (markup : List Char) : Rendering (List Char) := do
  if markup.contains '[' then
    let shown ← renderPieces 0 [] (pieces markup)
    match shown.refusal? with
    | some refusal => throw (.component refusal)
    | none => return shown.text
  else return shownText markup

def escapeTagsUpTo : Nat → List Char → List Char
  | 0, cs => cs
  | _, [] => []
  | fuel + 1, c :: cs =>
    match tagMatch? (c :: cs) with
    | some found =>
      List.replicate (2 * found.backslashes + 1) '\\' ++ bracketed found.body ++
        escapeTagsUpTo fuel found.rest
    | none => c :: escapeTagsUpTo fuel cs

/-- Whether a text ends in one backslash and no more. -/
def endsInSingleBackslash (cs : List Char) : Bool :=
  match cs.reverse with
  | '\\' :: '\\' :: _ => false
  | '\\' :: _ => true
  | _ => false

/-- Markup that shows a text with its tags as they are. -/
def escape (cs : List Char) : List Char :=
  let escaped := escapeTagsUpTo cs.length cs
  if endsInSingleBackslash escaped then escaped ++ ['\\'] else escaped

end FactIntake.Console
