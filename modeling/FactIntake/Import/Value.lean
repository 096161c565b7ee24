import FactIntake.Import.Class
import FactIntake.Import.Module

/-!
The values that a reference can lead to, and their attributes. A value has what its class has; a
module has its own attributes before that, a definition its own ones, and a class what its classes
have. A module may define a factory that is asked for the attributes that the module lacks.
-/

namespace FactIntake.Import

inductive Value
  | module (name : String)
  /-- The attributes of a module, as a mapping. -/
  | members (moduleName : String)
  /-- Where a module was found. -/
  | origin (moduleName : String)
  | defined (definition : Definition)
  /-- A compiler that a factory built. -/
  | built (compiler : Compiler)
  | text (value : String)
  /-- A value of which only the class matters. -/
  | sample (className : String)
  | type (className : String)
  /-- What a class itself has, as a mapping. -/
  | catalogue (className : String)
  | bound (receiver : Value) (operation : Operation)
  | unbound (operation : Operation)
deriving Inhabited

namespace Value

def nothing : Value := .sample "NoneType"

/-- Descriptions are texts; nothing depends on what they say. -/
def description : Value := .text ""

def boundClass : Form → String
  | .operator => "method-wrapper"
  | .routine => "method"
  | _ => "builtin_function_or_method"

def unboundClass : Form → String
  | .operator => "wrapper_descriptor"
  | .routine => "function"
  | .shared => "classmethod_descriptor"
  | .loose => "builtin_function_or_method"
  | .method => "method_descriptor"

def className : Value → String
  | .module _ => "module"
  | .members _ => "dict"
  | .origin _ => "ModuleSpec"
  | .defined definition => definition.kind
  | .built _ => "Compiler"
  | .text _ => "str"
  | .sample className => className
  | .type _ => "type"
  | .catalogue _ => "mappingproxy"
  | .bound _ operation => boundClass operation.form
  | .unbound operation => unboundClass operation.form

end Value

/-- Whether a module that is loaded has children to be imported. -/
def isPackage (registry : Registry) (name : String) : Bool :=
  match registry name with
  | some found => found.isPackage
  | none => false

/-- What a loaded module had from the start, beside what it defines. -/
def givenMember? (registry : Registry) (name attr : String) : Option Value :=
  match attr with
  | "__name__" => some (.text name)
  | "__package__" => some (.text (packageOf (isPackage registry name) name))
  | "__doc__" => some .nothing
  | "__loader__" => some (.sample "Loader")
  | "__spec__" => some (.origin name)
  | "__path__" => if isPackage registry name then some (.sample "list") else none
  | _ => none

/-- An attribute of a loaded module itself. The latest change of it counts, then a loaded child of
that name, then what the module defines. -/
def member? (registry : Registry) (imports : Imports) (name attr : String) : Option Value :=
  match imports.remnant? name attr with
  | some .missing => none
  | some .nothing => some .nothing
  | some (.text value) => some (.text value)
  | none =>
    let child := childName name attr
    if imports.has child then some (.module child)
    else match (registry name).bind fun found => found.attributes.lookup attr with
      | some definition => some (.defined definition)
      | none => givenMember? registry name attr

/-- Whether the class of a value describes its values. -/
def isDescribed (className : String) : Bool :=
  !(["NoneType", "mappingproxy", "Loader", "method", "function"].contains className) &&
    (classes.lookup className).isSome

/-- A field of an operation. -/
def operationField (receiver : Option Value) (operation : Operation) (field : String) : Value :=
  match field with
  | "__name__" => .text operation.name
  | "__qualname__" => .text (operation.owner ++ "." ++ operation.name)
  | "__text_signature__" => .description
  | "__self__" => receiver.getD .nothing
  | "__objclass__" => .type operation.owner
  | "__func__" => .unbound operation
  | "__annotations__" | "__builtins__" | "__dict__" | "__globals__" => .sample "dict"
  | "__code__" => .sample "code"
  | _ => .nothing

def originField (registry : Registry) (moduleName field : String) : Value :=
  match field with
  | "__dict__" => .sample "dict"
  | "__module__" => .description
  | "parent" => .text (packageOf (isPackage registry moduleName) moduleName)
  | "has_location" => .sample "bool"
  | _ => .nothing

/-- The value of a field that the class of a value has. -/
def fieldOf (registry : Registry) (value : Value) (field : String) : Value :=
  match field, value with
  | "__class__", _ => .type value.className
  | "__doc__", _ => if isDescribed value.className then .description else .nothing
  | _, .module name => if field == "__dict__" then .members name else .sample "dict"
  | _, .origin name => originField registry name field
  | _, .bound receiver operation => operationField (some receiver) operation field
  | _, .unbound operation => operationField none operation field
  | "__hash__", _ | "__weakref__", _ => .nothing
  | "__dict__", _ => .sample "dict"
  | "__module__", _ => .description
  | _, _ => .sample "int"

/-- An operation as a value has it. -/
def bind (value : Value) (operation : Operation) : Value :=
  match operation.form with
  | .shared => .bound (.type value.className) operation
  | .loose => .bound (.type operation.owner) operation
  | _ => .bound value operation

/-- What a value has by its class. -/
def classAttribute? (registry : Registry) (value : Value) (attr : String) : Option Value :=
  (inherited? value.className attr).map fun
    | .operation operation => bind value operation
    | .field field => fieldOf registry value field

/-- What is kept with a module about where it was found. -/
def originMember? (registry : Registry) (moduleName attr : String) : Option Value :=
  match attr with
  | "name" => some (.text moduleName)
  | "loader" => some (.sample "Loader")
  | "origin" | "loader_state" | "_cached" => some .nothing
  | "submodule_search_locations" => some <|
      if isPackage registry moduleName then .sample "list" else .nothing
  | "_uninitialized_submodules" => some (.sample "list")
  | "_set_fileattr" | "_initializing" => some (.sample "bool")
  | _ => none

/-- Classes that say what they are called with. -/
def signed : List String := ["object", "module", "tuple", "list", "method", "function"]

/-- A field of a class as a value of its own. -/
def typeField? (className field : String) : Option Value :=
  match field with
  | "__class__" => some (.type "type")
  | "__name__" | "__qualname__" => some (.text className)
  | "__module__" => some (.text "builtins")
  | "__bases__" | "__mro__" => some (.sample "tuple")
  | "__base__" => some <| match (lineage className)[1]? with
      | some above => .type above
      | none => .nothing
  | "__dict__" => some (.catalogue className)
  | "__doc__" => some <|
      if isDescribed className || ["method", "function"].contains className then .description
      else .nothing
  | "__text_signature__" => some <|
      if signed.contains className then .description else .nothing
  | "__basicsize__" | "__dictoffset__" | "__flags__" | "__itemsize__" | "__weakrefoffset__" =>
    some (.sample "int")
  | _ => none

/-- An entry of a class as it is seen from a class below. -/
def fromType (className : String) : Entry → Value
  | .field "__hash__" => .nothing
  | .field _ => .sample "getset_descriptor"
  | .operation operation =>
    match operation.form with
    | .shared => .bound (.type className) operation
    | .loose => .bound (.type operation.owner) operation
    | _ => .unbound operation

def isTypeField (attr : String) : Bool :=
  attr == "__class__" || Class.ofClasses.fields.contains attr

/-- An attribute of a class: its fields come before what its classes have, and that comes before
the operations of classes. -/
def typeAttribute? (className attr : String) : Option Value :=
  if isTypeField attr then typeField? className attr
  else match inherited? className attr with
    | some entry => some (fromType className entry)
    | none => match declared? "type" attr with
      | some (.operation operation) => some (bind (.type className) operation)
      | _ => none

/-- Operations that every definition has. -/
def definitionOperation? (definition : Definition) (attr : String) : Option Operation :=
  match attr with
  | "__call__" => definition.factory.map fun _ => ⟨definition.kind, attr, .routine, .own⟩
  | "__init__" => some ⟨definition.kind, attr, .routine, .gives "NoneType"⟩
  | _ => none

/-- What definitions and compilers have by the class that they are of. -/
def plainAttribute? (registry : Registry) (value : Value) (attr : String) : Option Value :=
  match attr with
  | "__dict__" => some (.sample "dict")
  | "__module__" => some .description
  | "__weakref__" => some .nothing
  | _ => classAttribute? registry value attr

def definitionAttribute? (registry : Registry) (definition : Definition) (attr : String) :
    Option Value :=
  let value := Value.defined definition
  if attr == "__class__" || attr == "__dict__" then
    plainAttribute? registry value attr
  else match definition.attributes.lookup attr with
    | some inner => some (.defined inner)
    | none => match definitionOperation? definition attr with
      | some operation => some (.bound value operation)
      | none => plainAttribute? registry value attr

/-- What a compiler has. -/
def compilerAttribute? (registry : Registry) (compiler : Compiler) (attr : String) :
    Option Value :=
  let value := Value.built compiler
  if attr == "compile" then
    some (.bound value ⟨value.className, attr, .routine, .own⟩)
  else plainAttribute? registry value attr

/-- The attribute of a module without the factory that may be asked for it. -/
def moduleAttribute? (registry : Registry) (imports : Imports) (name attr : String) :
    Option Value :=
  if attr == "__class__" || attr == "__dict__" then
    classAttribute? registry (.module name) attr
  else (member? registry imports name attr).or
    (classAttribute? registry (.module name) attr)

def attribute? (registry : Registry) (imports : Imports) (value : Value) (attr : String) :
    Option Value :=
  match value with
  | .module name => moduleAttribute? registry imports name attr
  | .origin name =>
    (classAttribute? registry value attr).or (originMember? registry name attr)
  | .defined definition => definitionAttribute? registry definition attr
  | .built compiler => compilerAttribute? registry compiler attr
  | .type className => typeAttribute? className attr
  | _ => classAttribute? registry value attr

/-- How a value is called in what is said about it. A module is called by the name that it has
at the time. -/
def owner (registry : Registry) (imports : Imports) : Value → String
  | .module name => match member? registry imports name "__name__" with
    | some (.text name) => "module " ++ Text.quoted name
    | _ => "module"
  | .type className => "type object '" ++ className ++ "'"
  | value => "'" ++ value.className ++ "' object"

def attributeFault (owner attr : String) : Fault :=
  .general "AttributeError" [.text (owner ++ " has no attribute " ++ Text.quoted attr)]

/-- The answer of a factory that is asked for an attribute. -/
def ask (hook : Value) (attr : String) : Report Value :=
  match hook with
  | .defined ⟨_, _, _, some factory⟩ => (factory.build attr).bind (.succeed <| .built ·)
  | hook => .fail (Fault.typeFault ("'" ++ hook.className ++ "' object is not callable"))

/-- The attribute of a value. A module without it asks its own factory, if it has one. -/
def attributeOf (registry : Registry) (imports : Imports) (value : Value) (attr : String) :
    Report Value :=
  match attribute? registry imports value attr with
  | some found => .succeed found
  | none =>
    let missing := attributeFault (owner registry imports value) attr
    match value with
    | .module name => match member? registry imports name "__getattr__" with
      | some hook => ask hook attr
      | none => .fail missing
    | _ => .fail missing

/-- Whether a value can be called. -/
def isCallable : Value → Bool
  | .defined definition => definition.factory.isSome
  | .type _ | .bound .. | .unbound _ => true
  | _ => false

end FactIntake.Import
