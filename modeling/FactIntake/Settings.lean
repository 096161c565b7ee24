import FactIntake.Encoding
import FactIntake.Entries
import FactIntake.Fault
import FactIntake.Text.Lowercase

/-!
Loader settings: the recognised extensions, the encoding of sources and the compiler. Values given
for them are checked field by field, unknown fields last; an extension is kept without its leading
points and in lower case.
-/

namespace FactIntake

structure Settings where
  extensions : List String
  encoding : String
  compiler : Option String
deriving DecidableEq, Repr

/-- The two variables that settings are taken from. -/
structure Environment where
  compiler : Option String
  encoding : Option String
deriving DecidableEq, Repr

/-- Values given for settings, by field. -/
abbrev Given := List (String × Model)

namespace Environment

def compilerVariable : String := "FACTS_COMPILER"
def encodingVariable : String := "FACTS_SOURCE_ENCODING"

/-- Sets a variable or removes it; other variables are not looked at. -/
def set (environment : Environment) (name : String) (value : Option String) : Environment :=
  if name == compilerVariable then { environment with compiler := value }
  else if name == encodingVariable then { environment with encoding := value }
  else environment

/-- The values that the environment gives; an empty variable gives none. -/
def given (environment : Environment) : Given :=
  let entry (field : String) : Option String → Given
    | some value => if value.isEmpty then [] else [(field, .text value)]
    | none => []
  entry "compiler" environment.compiler ++ entry "encoding" environment.encoding

end Environment

namespace Settings

variable [Codecs]

def sourceExtensions : List String := ["fiml", "fidl", "fiql", "cql"]

def default : Settings := ⟨sourceExtensions, "utf-8", none⟩

instance : Inhabited Settings := ⟨default⟩

/-- An issue-or-value: a field is settled only if it has no issue. -/
abbrev Checked (α : Type) := Except (List Issue) α

def refuse (complaint : Complaint) (field : String) : Checked α :=
  .error [⟨complaint, [.field field]⟩]

def normalExtension (s : String) : String :=
  Text.lower (String.ofList (s.toList.dropWhile (· == '.')))

def itemIssues : Nat → List Model → List Issue
  | _, [] => []
  | index, .text _ :: items => itemIssues (index + 1) items
  | index, _ :: items =>
    ⟨.noText, [.field "extensions", .item index]⟩ :: itemIssues (index + 1) items

def texts (items : List Model) : List String :=
  items.filterMap fun
    | .text s => some s
    | _ => none

def checkItems (items : List Model) : Checked (List String) :=
  let given := texts items
  let issues := itemIssues 0 items ++
    (if given.isEmpty then [⟨.noItem, [.field "extensions"]⟩] else [])
  if !issues.isEmpty then .error issues
  else
    let normal := given.map normalExtension
    if normal.any (·.isEmpty) then refuse (.refused "extensions must not be empty") "extensions"
    else .ok normal

def checkExtensions : Option Model → Checked (List String)
  | none => .ok sourceExtensions
  | some (.list items) | some (.tuple items) => checkItems items
  | some _ => refuse .noTuple "extensions"

def checkEncoding : Option Model → Checked String
  | none => .ok "utf-8"
  | some (.text name) =>
    if name.isEmpty then refuse .emptyText "encoding"
    else if name.toList.contains (Char.ofNat 0) then
      refuse (.refused "embedded null character") "encoding"
    else match Encoding.find? name with
      | some _ => .ok name
      | none => refuse (.refused ("unknown encoding: " ++ name)) "encoding"
  | some _ => refuse .noText "encoding"

def checkCompiler : Option Model → Checked (Option String)
  | none | some .null => .ok none
  | some (.text reference) => .ok (some reference)
  | some _ => refuse .noText "compiler"

def fieldNames : List String := ["extensions", "encoding", "compiler"]

def unknownIssues (given : Given) : List Issue :=
  (given.filter fun entry => !fieldNames.contains entry.1).map fun entry =>
    ⟨.unknownField, [.field entry.1]⟩

def issuesOf : Checked α → List Issue
  | .ok _ => []
  | .error issues => issues

/-- The settings that the given values make, or all that is wrong with them. -/
def check (given : Given) : Except (List Issue) Settings :=
  let extensions := checkExtensions (given.lookup "extensions")
  let encoding := checkEncoding (given.lookup "encoding")
  let compiler := checkCompiler (given.lookup "compiler")
  match extensions, encoding, compiler, unknownIssues given with
  | .ok extensions, .ok encoding, .ok compiler, [] => .ok ⟨extensions, encoding, compiler⟩
  | _, _, _, unknown =>
    .error (issuesOf extensions ++ issuesOf encoding ++ issuesOf compiler ++ unknown)

def isGiven : Model → Bool
  | .null => false
  | _ => true

/-- Settings from the environment; an override wins unless it is null. -/
def fromEnvironment (environment : Environment) (overrides : Given) :
    Except (List Issue) Settings :=
  check (Entries.putAll environment.given (overrides.filter fun entry => isGiven entry.2))

/-- The name of the settings themselves where they are made. -/
def reservedName : String := "cls"

/-- Settings with issues are a fault. -/
def orFault (checked : Except (List Issue) Settings) : Except Fault Settings :=
  checked.mapError .invalid

/-- Settings from the environment and overrides that someone gives by name. No override may have the
name that stands for the settings themselves. -/
def configure (environment : Environment) (overrides : Given) : Except Fault Settings :=
  if (overrides.lookup reservedName).isSome then
    .error (Fault.typeFault
      ("LoaderConfig.from_env() got multiple values for argument '" ++ reservedName ++ "'"))
  else orFault (fromEnvironment environment overrides)

/-- Assigning to a field of settings. The settings are fixed; what begins with an underscore is none
of them and is kept beside them, as far as it can be assigned at all. -/
def assign (field : String) (value : Model) : Except Fault Unit :=
  let found := "'" ++ value.typeName ++ "'"
  match field, value with
  | "__class__", _ => .error (Fault.typeFault
      ("__class__ must be set to a class, not " ++ found ++ " object"))
  | "__dict__", .mapping _ => .ok ()
  | "__dict__", _ =>
    .error (Fault.typeFault ("__dict__ must be set to a dictionary, not a " ++ found))
  | "__weakref__", _ => .error (.general "AttributeError" [.text
      "attribute '__weakref__' of 'LoaderConfig' objects is not writable"])
  | _, _ =>
    if field.toList.head? == some '_' then .ok ()
    else .error (.invalid [⟨.frozen, [.field field]⟩])

end Settings

end FactIntake
