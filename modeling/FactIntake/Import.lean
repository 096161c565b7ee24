import FactIntake.Import.Value

/-!
Importing modules by dotted name. Each prefix of the name up to a point is a module of its own and
is loaded before the next; a loaded module becomes an attribute of the module before it. What is
loaded stays loaded, whatever happens later in the chain.
-/

namespace FactIntake.Import

def noModule (text : String) : Fault := .general "ModuleNotFoundError" [.text text]

def unknownModule (name : String) : Fault := noModule ("No module named " ++ Text.quoted name)

def noPackage (name parent : String) : Fault :=
  noModule ("No module named " ++ Text.quoted name ++ "; " ++ Text.quoted parent ++
    " is not a package")

/-- The names that `first` and the parts after it spell, from the shortest to the longest. -/
def chainFrom (first : String) : List String → List String
  | [] => [first]
  | part :: parts => first :: chainFrom (childName first part) parts

def chain (name : String) : List String :=
  match Text.pieces '.' name with
  | [] => []
  | first :: parts => chainFrom first parts

/-- Where the children of a parent are; a parent that does not say so has none. -/
def childrenOf (registry : Registry) (imports : Imports) (parent name : String) : Report Value :=
  let asked := attributeOf registry imports (.module parent) "__path__"
  match asked.result with
  | .ok _ => asked
  | .error fault =>
    if fault.isA "AttributeError" then { asked with result := .error (noPackage name parent) }
    else asked

/-- The fault of a module that is not there, where its parent says that its children are. A
definition or a compiler is no place to look in. -/
def notFoundIn (place : Option Value) (name : String) : Fault :=
  let misplaced (place : Value) : Fault := .typeFault (Fault.notIterable place.className)
  match place with
  | some (.defined definition) => misplaced (.defined definition)
  | some (.built compiler) => misplaced (.built compiler)
  | _ => unknownModule name

/-- Loads a module that is not loaded, from where its parent says that its children are. Only one that
loads without a fault is kept; what its code has called by then stays called. -/
def loadFrom (registry : Registry) (parent : Option String) (place : Option Value) (name : String)
    (imports : Imports) : Report Unit × Imports :=
  match registry name with
  | none => (.fail (notFoundIn place name), imports)
  | some found =>
    let report := found.loading.report
    match report.result with
    | .error _ => (report, imports)
    | .ok () => (report, imports.add parent name)

/-- Loads one module, whose parent is loaded. -/
def loadOne (registry : Registry) (parent : Option String) (name : String) (imports : Imports) :
    Report Unit × Imports :=
  if imports.has name then (.succeed (), imports)
  else
    let asked : Report (Option Value) := match parent with
      | some parent => (childrenOf registry imports parent name).bind (.succeed <| some ·)
      | none => .succeed none
    match asked.result with
    | .error _ => (asked.bind fun _ => .succeed (), imports)
    | .ok place =>
      let (loaded, imports) := loadFrom registry parent place name imports
      (asked.bind fun _ => loaded, imports)

/-- Loads the modules of a chain in order, up to the first that fails. -/
def loadChain (registry : Registry) (parent : Option String) :
    List String → Imports → Report Unit × Imports
  | [], imports => (.succeed (), imports)
  | name :: names, imports =>
    let (report, imports) := loadOne registry parent name imports
    match report.result with
    | .error _ => (report, imports)
    | .ok () =>
      let (later, imports) := loadChain registry (some name) names imports
      (report.bind fun _ => later, imports)

/-- Imports a module by its full name. -/
def load (registry : Registry) (name : String) (imports : Imports) : Report Unit × Imports :=
  if name.isEmpty then (.fail (Fault.valueFault "Empty module name"), imports)
  else if name.toList.head? == some '.' then
    (.fail (Fault.typeFault
      ("the 'package' argument is required to perform a relative import for " ++
        Text.quoted name)), imports)
  else loadChain registry none (chain name) imports

end FactIntake.Import
