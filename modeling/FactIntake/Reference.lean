import FactIntake.Fault.Draft
import FactIntake.Import
import FactIntake.Settings

/-!
References to compiler factories: a module and an attribute path, separated by the first colon or,
without a colon, by the last point. Resolving a reference imports its module, walks the path and
takes what it finds if that is a factory.
-/

namespace FactIntake.Reference

/-- The module and the attribute path that a reference names; either may be empty. -/
structure Parts where
  moduleName : String
  path : String
deriving DecidableEq, Repr

/-- Splits at the first mark, if there is one. -/
def splitFirst? (mark : Char) (cs : List Char) : Option (List Char × List Char) :=
  if cs.contains mark then
    some (cs.takeWhile (· != mark), (cs.dropWhile (· != mark)).drop 1)
  else none

/-- Splits at the last mark, if there is one. -/
def splitLast? (mark : Char) (cs : List Char) : Option (List Char × List Char) :=
  (splitFirst? mark cs.reverse).map fun (last, before) => (before.reverse, last.reverse)

def split (reference : String) : Parts :=
  let cs := Text.stripChars reference.toList
  let (moduleName, path) := match splitFirst? ':' cs with
    | some parts => parts
    | none => (splitLast? '.' cs).getD ([], cs)
  ⟨String.ofList moduleName, String.ofList path⟩

def invalidSetting (message : String) : Fault :=
  Fault.misconfiguredWith message (some Environment.compilerVariable)

def malformed (reference : String) : Fault :=
  invalidSetting
    ("Invalid compiler reference '" ++ reference ++ "'. Expected 'package.module:attr'")

/-- A module that cannot be imported; why not is for the log alone. -/
def notImported (moduleName : String) (why : Fault) : Raised :=
  let fault := invalidSetting ("Compiler module '" ++ moduleName ++ "' could not be imported")
  ⟨.caused fault why, fault.detailEvents (some why.message)⟩

def notFound (reference moduleName : String) (why : Fault) : Fault :=
  .caused (invalidSetting
    ("Compiler '" ++ reference ++ "' not found in module '" ++ moduleName ++ "'")) why

def notCallable (reference : String) : Fault :=
  invalidSetting ("Compiler '" ++ reference ++ "' is not callable")

/-- Imports the module; only faults of importing are taken for a bad setting. -/
def importModule (registry : Registry) (moduleName : String) (imports : Imports) :
    Report Unit × Imports :=
  let (report, imports) := Import.load registry moduleName imports
  match report.result with
  | .ok () => (report, imports)
  | .error fault =>
    if fault.isA "ImportError" then
      let refused := notImported moduleName fault
      ({ report with
          result := .error refused.fault
          events := report.events ++ refused.events }, imports)
    else (report, imports)

/-- Goes on to an attribute; only its absence is taken for a bad setting. -/
def step (registry : Registry) (imports : Imports) (absent : Fault → Fault)
    (value : Import.Value) (attr : String) : Report Import.Value :=
  let report := Import.attributeOf registry imports value attr
  match report.result with
  | .ok _ => report
  | .error fault =>
    if fault.isA "AttributeError" then { report with result := .error (absent fault) }
    else report

/-- Follows a path of attributes. -/
def walk (registry : Registry) (imports : Imports) (absent : Fault → Fault) :
    Import.Value → List String → Report Import.Value
  | value, [] => .succeed value
  | value, attr :: path =>
    (step registry imports absent value attr).bind fun next =>
      walk registry imports absent next path

/-- The value at the end of the path, once its module is loaded. -/
def pick (registry : Registry) (reference : String) (parts : Parts) (imports : Imports) :
    Report Import.Value := do
  let value ← walk registry imports (notFound reference parts.moduleName)
    (.module parts.moduleName) (Text.pieces '.' parts.path)
  if Import.isCallable value then
    Report.log (.compilerResolved reference)
    return value
  else .fail (notCallable reference)

/-- The value in the place of a factory that a reference names, and the modules loaded
afterwards. -/
def resolve (registry : Registry) (reference : String) (imports : Imports) :
    Report Import.Value × Imports :=
  let parts := split reference
  if parts.moduleName.isEmpty || parts.path.isEmpty then (.fail (malformed reference), imports)
  else
    let (imported, imports) := importModule registry parts.moduleName imports
    (imported.bind fun _ => pick registry reference parts imports, imports)

end FactIntake.Reference
