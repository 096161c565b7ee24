import FactIntake.Fault

/-!
Options on a command line. A token of two or more characters that starts with a hyphen is an
option: a long name, with its value after an equals sign, or a cluster of letters, the last of
which may be followed by its value. An option that needs a value takes the next token, whatever
it is. Two hyphens on their own end the options.
-/

namespace FactIntake.Options

/-- An option of a command. -/
structure Spec (ι : Type) where
  option : ι
  letter : Option Char
  long : String
  takesValue : Bool

/-- Options in the order in which they were given, and the tokens that are none. -/
structure Parsed (ι : Type) where
  given : List (ι × Option String)
  positional : List String

variable {ι : Type}

def noSuchOption (name : String) : Fault :=
  .misused .noSuchOption ("No such option " ++ Text.quoted name ++ ".")

def needsValue (name : String) : Fault :=
  .misused .badOption ("Option " ++ Text.quoted name ++ " requires an argument.")

def takesNoValue (name : String) : Fault :=
  .misused .badOption ("Option " ++ Text.quoted name ++ " does not take a value.")

/-- Whether a token is read as an option; two hyphens on their own are, too. -/
def looksLikeOption (token : String) : Bool :=
  token.toList.head? == some '-' && token.length > 1

def endMark : String := "--"

def byLong? (specs : List (Spec ι)) (name : String) : Option (Spec ι) :=
  specs.find? fun spec => spec.long == name

def byLetter? (specs : List (Spec ι)) (letter : Char) : Option (Spec ι) :=
  specs.find? fun spec => spec.letter == some letter

/-- What an option token says: options that are complete, and perhaps one whose value is the next
token. -/
structure Said (ι : Type) where
  given : List (ι × Option String)
  wanting : Option (ι × String)

def letterName (letter : Char) : String := String.ofList ['-', letter]

/-- Reads a cluster of letters. -/
def readCluster (specs : List (Spec ι)) : List Char → Except Fault (Said ι)
  | [] => .ok ⟨[], none⟩
  | letter :: rest =>
    match byLetter? specs letter with
    | none => .error (noSuchOption (letterName letter))
    | some spec =>
      if spec.takesValue then
        if rest.isEmpty then .ok ⟨[], some (spec.option, letterName letter)⟩
        else .ok ⟨[(spec.option, some (String.ofList rest))], none⟩
      else (readCluster specs rest).map fun said =>
        { said with given := (spec.option, none) :: said.given }

/-- The name of a long option, and the value attached to it. -/
def splitAttached (token : List Char) : String × Option String :=
  (String.ofList (token.takeWhile (· != '=')),
    if token.contains '=' then some (String.ofList ((token.dropWhile (· != '=')).drop 1)) else none)

def readToken (specs : List (Spec ι)) (token : String) : Except Fault (Said ι) :=
  let (name, attached) := splitAttached token.toList
  match byLong? specs name, attached with
  | some spec, some value =>
    if spec.takesValue then .ok ⟨[(spec.option, some value)], none⟩ else .error (takesNoValue name)
  | some spec, none =>
    if spec.takesValue then .ok ⟨[], some (spec.option, name)⟩
    else .ok ⟨[(spec.option, none)], none⟩
  | none, _ =>
    match token.toList with
    | '-' :: '-' :: _ => .error (noSuchOption name)
    | cs => readCluster specs (cs.drop 1)

def Parsed.addGiven (given : List (ι × Option String)) (parsed : Parsed ι) : Parsed ι :=
  { parsed with given := given ++ parsed.given }

def Parsed.addPositional (token : String) (parsed : Parsed ι) : Parsed ι :=
  { parsed with positional := token :: parsed.positional }

/-- Reads a command line. Unless options and other tokens may be `mixed`, the first token that is no
option ends the options. -/
def parse (specs : List (Spec ι)) (mixed : Bool) : List String → Except Fault (Parsed ι)
  | [] => .ok ⟨[], []⟩
  | token :: rest =>
    if token == endMark then .ok ⟨[], rest⟩
    else if looksLikeOption token then
      match readToken specs token with
      | .error fault => .error fault
      | .ok ⟨given, none⟩ => (parse specs mixed rest).map (·.addGiven given)
      | .ok ⟨given, some (option, name)⟩ =>
        match rest with
        | [] => .error (needsValue name)
        | value :: rest =>
          (parse specs mixed rest).map (·.addGiven (given ++ [(option, some value)]))
    else if mixed then (parse specs mixed rest).map (·.addPositional token)
    else .ok ⟨[], token :: rest⟩

/-- The value of the last of repeated options. -/
def Parsed.value? [BEq ι] (parsed : Parsed ι) (option : ι) : Option String :=
  ((parsed.given.filter (·.1 == option)).getLast?.bind (·.2))

def Parsed.has [BEq ι] (parsed : Parsed ι) (option : ι) : Bool :=
  parsed.given.any (·.1 == option)

/-- Tokens that no argument of a command takes. -/
def unexpected (tokens : List String) : Fault :=
  .misused .general ("Got unexpected extra argument" ++ (if tokens.length == 1 then "" else "s") ++
    " (" ++ " ".intercalate tokens ++ ")")

end FactIntake.Options
