import FactIntake.Import.Layout
import FactIntake.Import.Value

/-!
Templates with fields in curly brackets. A field names a value by its place or by a key, may go on
to an attribute or an item of it, and may convert it and lay it out; the layout may have fields of
its own, but those have none. A bracket that stands twice stands for itself.
-/

namespace FactIntake.Import.Template

/-- What the fields can name. -/
inductive Supply
  | empty
  | one (text : String)
  /-- A text in the place of a mapping: places are refused, and a text has no keys. -/
  | keyed

/-- Fields without a name are numbered, unless fields have numbers. -/
inductive Numbering
  | fresh
  | automatic (next : Nat)
  | manual

structure Field where
  name : List Char
  conversion : Option Char
  layout : List Char
  /-- Whether there are fields in the layout. -/
  expands : Bool

/-- The name up to the mark that ends it; a mark between square brackets ends nothing. -/
def splitName : Nat → List Char → Except Fault (List Char × Option Char × List Char)
  | 0, cs => .ok ([], none, cs)
  | _, [] => .ok ([], none, [])
  | fuel + 1, c :: rest =>
    if c == '{' then .error (Fault.valueFault "unexpected '\x7b' in field name")
    else if c == '}' || c == ':' || c == '!' then .ok ([], some c, rest)
    else
      let inside := if c == '[' then rest.takeWhile (· != ']') else []
      (splitName fuel (rest.drop inside.length)).map fun (name, mark, rest) =>
        (c :: inside ++ name, mark, rest)

/-- The layout up to the bracket that closes the field. -/
def splitLayout : Nat → List Char → Option (List Char × List Char)
  | _, [] => none
  | depth, c :: rest =>
    if c == '}' && depth == 0 then some ([], rest)
    else
      let depth := if c == '{' then depth + 1 else if c == '}' then depth - 1 else depth
      (splitLayout depth rest).map fun (layout, rest) => (c :: layout, rest)

def takeLayout (name : List Char) (conversion : Option Char) (cs : List Char) :
    Except Fault (Field × List Char) :=
  match splitLayout 0 cs with
  | none => .error (Fault.valueFault "unmatched '\x7b' in format spec")
  | some (layout, rest) => .ok (⟨name, conversion, layout, layout.contains '{'⟩, rest)

/-- The field whose opening bracket stands before the characters. -/
def takeField (cs : List Char) : Except Fault (Field × List Char) := do
  let (name, mark, rest) ← splitName (cs.length + 1) cs
  match mark, rest with
  | none, _ => .error (Fault.valueFault "expected '\x7d' before end of string")
  | some ':', rest => takeLayout name none rest
  | some '!', [] =>
    .error (Fault.valueFault "end of string while looking for conversion specifier")
  | some '!', conversion :: '}' :: rest => .ok (⟨name, some conversion, [], false⟩, rest)
  | some '!', conversion :: ':' :: rest => takeLayout name (some conversion) rest
  | some '!', conversion :: [] => takeLayout name (some conversion) []
  | some '!', _ => .error (Fault.valueFault "expected ':' after conversion specifier")
  | some _, rest => .ok (⟨name, none, [], false⟩, rest)

/-- The number of a name, if it is one. -/
def place? (name : List Char) : Except Fault (Option Nat) :=
  match name.mapM Numeral.digit? with
  | none => .ok none
  | some [] => .ok none
  | some digits => ((Layout.sizeOf digits).map some).mapError Fault.valueFault

/-- The number of a field that is known by its place. -/
def number (numbering : Numbering) (place : Option Nat) : Except Fault (Nat × Numbering) :=
  match numbering, place with
  | .fresh, none => .ok (0, .automatic 1)
  | .automatic next, none => .ok (next, .automatic (next + 1))
  | .manual, none => .error (Fault.valueFault
      "cannot switch from manual field specification to automatic field numbering")
  | .automatic _, some _ => .error (Fault.valueFault
      "cannot switch from automatic field numbering to manual field specification")
  | _, some n => .ok (n, .manual)

def byPlace (supply : Supply) (n : Nat) : Except Fault Value :=
  match supply, n with
  | .one text, 0 => .ok (.text text)
  | .keyed, _ => .error (Fault.valueFault "Format string contains positional fields")
  | _, n => .error <| .general "IndexError" [.text
      ("Replacement index " ++ Json.intText n ++ " out of range for positional args tuple")]

def noKeys : Fault := .typeFault "string indices must be integers, not 'str'"

def byKey (supply : Supply) (key : List Char) : Fault :=
  match supply with
  | .keyed => noKeys
  | _ => .general "KeyError" [.text (String.ofList key)]

def isStep (c : Char) : Bool := c == '.' || c == '['

/-- The item of a value under a number or a key. -/
def item (value : Value) (key : List Char) : Except Fault Value := do
  match value, ← place? key with
  | .text text, some n =>
    match text.toList[n]? with
    | some c => return .text c.toString
    | none => throw (.general "IndexError" [.text "string index out of range"])
  | .text _, none => throw noKeys
  | value, _ => throw (.typeFault ("'" ++ value.className ++ "' object is not subscriptable"))

/-- The attribute of a value, of which only the class counts. -/
def attributeOf (value : Value) (name : List Char) : Except Fault Value :=
  let attr := String.ofList name
  match attribute? (fun _ => none) .empty value attr with
  | some found => .ok found
  | none => .error (attributeFault ("'" ++ value.className ++ "' object") attr)

def emptyStep : Fault := .valueFault "Empty attribute in format string"

/-- Goes on from a value by the steps that follow its name. -/
def follow : Nat → Value → List Char → Except Fault Value
  | 0, value, _ => .ok value
  | _, value, [] => .ok value
  | fuel + 1, value, '.' :: rest => do
    let name := rest.takeWhile (!isStep ·)
    if name.isEmpty then throw emptyStep
    follow fuel (← attributeOf value name) (rest.drop name.length)
  | fuel + 1, value, '[' :: rest => do
    let key := rest.takeWhile (· != ']')
    if !rest.contains ']' then throw (Fault.valueFault "Missing ']' in format string")
    let _ ← place? key
    if key.isEmpty then throw emptyStep
    follow fuel (← item value key) (rest.drop (key.length + 1))
  | _, _, _ =>
    .error (Fault.valueFault "Only '.' or '[' may follow ']' in format field specifier")

/-- The value that a name leads to. -/
def find (supply : Supply) (numbering : Numbering) (name : List Char) :
    Except Fault (Value × Numbering) := do
  let first := name.takeWhile (!isStep ·)
  let place ← place? first
  if place.isNone && !first.isEmpty then throw (byKey supply first)
  let (n, numbering) ← number numbering place
  let found ← byPlace supply n
  return (← follow (name.length + 1) found (name.drop first.length), numbering)

def convert (value : Value) (conversion : Char) : Except Fault Value :=
  let text := match value with
    | .text text => text
    | _ => ""
  match conversion with
  | 'r' => .ok (.text (Text.quoted text))
  | 's' => .ok (.text text)
  | 'a' => .ok (.text (Text.quoted text))
  | c =>
    let shown := if 32 < c.toNat && c.toNat < 127 then c.toString
      else "\\x" ++ String.ofList (Nat.toDigits 16 c.toNat)
    .error (Fault.valueFault ("Unknown conversion specifier " ++ shown))

def unsupported (className : String) : Fault :=
  .typeFault ("unsupported format string passed to " ++ className ++ ".__format__")

/-- A value in a layout. Only texts can be told; of other values the layout is checked. -/
def lay (value : Value) (layout : List Char) : Except Fault (List Char) :=
  match value with
  | .text text =>
    ((Layout.ofText (String.ofList layout) text).map String.toList).mapError Fault.valueFault
  | value =>
    if layout.isEmpty then .ok []
    else if ["int", "bool"].contains value.className then
      match Layout.trouble? value.className (String.ofList layout) with
      | some message => .error (Fault.valueFault message)
      | none => .ok []
    else .error (unsupported value.className)

/-- Fills a template, layouts being filled by `expand`. -/
def fillWith (supply : Supply)
    (expand : Numbering → List Char → Except Fault (List Char × Numbering)) :
    Nat → Numbering → List Char → Except Fault (List Char × Numbering)
  | 0, numbering, _ => .ok ([], numbering)
  | _, numbering, [] => .ok ([], numbering)
  | fuel + 1, numbering, c :: rest =>
    if c != '{' && c != '}' then do
      let (filled, numbering) ← fillWith supply expand fuel numbering rest
      return (c :: filled, numbering)
    else if rest.head? == some c then do
      let (filled, numbering) ← fillWith supply expand fuel numbering (rest.drop 1)
      return (c :: filled, numbering)
    else if c == '}' then
      .error (Fault.valueFault "Single '\x7d' encountered in format string")
    else if rest.isEmpty then
      .error (Fault.valueFault "Single '\x7b' encountered in format string")
    else do
      let (field, rest) ← takeField rest
      let (found, numbering) ← find supply numbering field.name
      let found ← match field.conversion with
        | some conversion => convert found conversion
        | none => pure found
      let (layout, numbering) ←
        if field.expands then expand numbering field.layout else pure (field.layout, numbering)
      let shown ← lay found layout
      let (filled, numbering) ← fillWith supply expand fuel numbering rest
      return (shown ++ filled, numbering)

/-- Fills a template whose layouts are templates themselves, `depth` times over. -/
def fill (supply : Supply) :
    Nat → Numbering → List Char → Except Fault (List Char × Numbering)
  | 0, _, _ => .error (Fault.valueFault "Max string recursion exceeded")
  | depth + 1, numbering, template =>
    fillWith supply (fill supply depth) (template.length + 1) numbering template

/-- Why a template cannot be filled. -/
def trouble? (supply : Supply) (template : String) : Option Fault :=
  match fill supply 2 .fresh template.toList with
  | .error fault => some fault
  | .ok _ => none

end FactIntake.Import.Template
