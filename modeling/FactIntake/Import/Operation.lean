import FactIntake.Encoding.Unencodable
import FactIntake.Import.Percent
import FactIntake.Import.Template

/-!
Calling values. An operation can stand where a compiler factory is wanted, and is then called with
the label of a source. What it makes of the label is no compiler, so that the fault comes from the
operation itself or from using its result; only a module that is asked for an attribute may find
that its own factory builds a compiler. Some operations change the attributes of a module.
-/

namespace FactIntake.Import

variable [Codecs]

/-- Using something that is no compiler as one. -/
def noCompiler (owner : String) : Report α := .fail (attributeFault owner "compile")

def gives (className : String) : Report α := noCompiler ("'" ++ className ++ "' object")

def refuses (faultClass message : String) : Report α := .fail (.general faultClass [.text message])

def refusesType (message : String) : Report α := refuses "TypeError" message
def refusesAttribute (message : String) : Report α := refuses "AttributeError" message
def refusesValue (message : String) : Report α := refuses "ValueError" message

/-- Fails with a fault, or else gives a value of a class. -/
def givesUnless (fault? : Option Fault) (className : String) : Report α :=
  match fault? with
  | some fault => .fail fault
  | none => gives className

/-- A value in the place of a compiler. -/
def asCompiler (registry : Registry) (imports : Imports) : Value → Report Compiler
  | .built compiler => .succeed compiler
  | value => noCompiler (owner registry imports value)

/-- A class that is called with a text. -/
def construct (className label : String) : Report Compiler :=
  match className with
  | "object" => refusesType "object() takes no arguments"
  | "type" => noCompiler "type object 'str'"
  | "NoneType" | "NotImplementedType" => refusesType (className ++ " takes no arguments")
  | "dict" => refusesValue "dictionary update sequence element #0 has length 1; 2 is required"
  | "module" => noCompiler ("module " ++ Text.quoted label)
  | "ModuleSpec" =>
    refusesType "ModuleSpec.__init__() missing 1 required positional argument: 'loader'"
  | "method" => refusesType "method expected 2 arguments, got 1"
  | "function" => refusesType "function() missing required argument 'globals' (pos 2)"
  | "int" =>
    match Numeral.read (Text.stripChars label.toList) with
    | .ok _ => gives "int"
    | .error refusal => refusesValue refusal.message
  | "builtin_function_or_method" | "method-wrapper" | "method_descriptor" | "wrapper_descriptor"
  | "getset_descriptor" | "classmethod_descriptor" =>
    refusesType ("cannot create '" ++ className ++ "' instances")
  | className => gives className

/-- The name of an operation in what is said about it. The value that it is bound to counts. -/
def calledName (receiver : Value) (operation : Operation) : String :=
  match receiver with
  | .module _ => operation.name
  | .type className => className ++ "." ++ operation.name
  | receiver => receiver.className ++ "." ++ operation.name

def nothingWanted (receiver : Value) (operation : Operation) : Report Compiler :=
  if operation.form == .operator then refusesType "expected 0 arguments, got 1"
  else refusesType (calledName receiver operation ++ "() takes no arguments (1 given)")

/-- Encoding a text under the name of an encoding. -/
def encode (text name : String) : Report Compiler :=
  if name.toList.contains (Char.ofNat 0) then refusesValue "embedded null character"
  else match Encoding.find? name with
    | none => refuses "LookupError" ("unknown encoding: " ++ name)
    | some encoding =>
      if !encoding.isText then refuses "LookupError"
        ("'" ++ name ++ "' is not a text encoding; use codecs.encode() to handle arbitrary codecs")
      else match encoding.unencodable? text.toList with
        | some (.missing message) => refuses "UnicodeEncodeError" message
        | some (.refused reason) => refuses "UnicodeError"
            ("encoding with '" ++ name ++ "' codec failed (UnicodeError: " ++ reason ++ ")")
        | none => gives "bytes"

def textAnswer (text name label : String) : Report Compiler :=
  match name with
  | "index" | "rindex" =>
    if (Text.find? label text).isSome then gives "int" else refusesValue "substring not found"
  | "encode" => encode text label
  | "format" => givesUnless (Template.trouble? (.one label) text) "str"
  | "format_map" => givesUnless (Template.trouble? .keyed text) "str"
  | "__mod__" => givesUnless (Percent.trouble? text label) "str"
  | _ => givesUnless (Percent.trouble? label text) "str"

/-- What a mapping has under a key. -/
def mapped? (registry : Registry) (imports : Imports) (mapping : Value) (key : String) :
    Option Value :=
  match mapping with
  | .members name => member? registry imports name key
  | .catalogue className =>
    if key == "__doc__" then typeField? className key
    else (declared? className key).map fun
      | .operation operation => .unbound operation
      | .field field => fromType className (.field field)
  | _ => none

/-- Changes what a mapping has under a key, if it is that of a module. -/
def alter (mapping : Value) (key : String) (remnant : Remnant) : Report Unit :=
  match mapping with
  | .members name => .change ⟨name, key, remnant⟩
  | _ => .succeed ()

def noKey (key : String) : Report Compiler := refuses "KeyError" key

def mappingAnswer (registry : Registry) (imports : Imports) (mapping : Value)
    (name key : String) : Report Compiler :=
  let found := mapped? registry imports mapping key
  match name, found with
  | "pop", some value => do
    alter mapping key .missing
    asCompiler registry imports value
  | "__delitem__", some _ => do
    alter mapping key .missing
    gives "NoneType"
  | "setdefault", none => do
    alter mapping key .nothing
    gives "NoneType"
  | _, some value => asCompiler registry imports value
  | "get", none => gives "NoneType"
  | _, none => noKey key

/-- Signs of the operations that a view of a mapping passes on to the mapping. -/
def viewSigns : List (String × String) :=
  [("__ge__", ">="), ("__gt__", ">"), ("__le__", "<="), ("__lt__", "<")]

def viewAnswer (registry : Registry) (imports : Imports) (mapping : Value)
    (name key : String) : Report Compiler :=
  match viewSigns.lookup name with
  | some sign => refusesType
      ("'" ++ sign ++ "' not supported between instances of 'dict' and 'str'")
  | none =>
    if name == "__or__" then refusesType "unsupported operand type(s) for |: 'dict' and 'str'"
    else if name == "__ror__" then
      refusesType "unsupported operand type(s) for |: 'str' and 'dict'"
    else mappingAnswer registry imports mapping name key

/-- A module that is set up anew under another name. -/
def renameModule (moduleName label : String) : Report Compiler := do
  Report.change ⟨moduleName, "__name__", .text label⟩
  for attr in ["__doc__", "__package__", "__loader__", "__spec__"] do
    Report.change ⟨moduleName, attr, .nothing⟩
  gives "NoneType"

/-- Why a field cannot be removed. -/
def fixedField (value : Value) (field : String) : Report Compiler :=
  match field, value with
  | "__class__", _ => refusesType "can't delete __class__ attribute"
  | "__doc__", .text _ | "__doc__", .members _ | "__doc__", .sample _ => refusesAttribute
      ("'" ++ value.className ++ "' object attribute '__doc__' is read-only")
  | "__dict__", .module _ | "__name__", .unbound _ | "__objclass__", .unbound _ =>
    refusesAttribute "readonly attribute"
  | "__annotations__", .module _ => refusesAttribute "__annotations__"
  | _, _ => refusesAttribute
      ("attribute '" ++ field ++ "' of '" ++ value.className ++ "' objects is not writable")

/-- Removing an attribute. Only a module has attributes that can be removed. -/
def remove (registry : Registry) (imports : Imports) (value : Value) (attr : String) :
    Report Compiler :=
  let absent := refusesAttribute
    ("'" ++ value.className ++ "' object has no attribute " ++ Text.quoted attr)
  match value, inherited? value.className attr with
  | .module name, entry =>
    if attr == "__class__" || attr == "__dict__" then fixedField value attr
    else if (member? registry imports name attr).isSome then do
      Report.change ⟨name, attr, .missing⟩
      gives "NoneType"
    else match entry with
      | some (.field "__annotations__") => fixedField value attr
      | _ => absent
  | _, some (.field field) => fixedField value field
  | _, some (.operation _) => refusesAttribute
      ("'" ++ value.className ++ "' object attribute " ++ Text.quoted attr ++ " is read-only")
  | _, none => absent

/-- Laying a value out. -/
def lay (value : Value) (layout : String) : Report Compiler :=
  if ["str", "int", "bool"].contains value.className then
    givesUnless ((Layout.trouble? value.className layout).map Fault.valueFault) "str"
  else .fail (Template.unsupported value.className)

/-- A method of another class that is given a text. -/
def unsuitedMethod (operation : Operation) : Report Compiler :=
  refusesType ("descriptor '" ++ operation.name ++ "' for '" ++ operation.owner ++
    "' objects doesn't apply to a 'str' object")

/-- What an operation that is taken from its class is for a text. -/
def rebound (operation : Operation) : Report Compiler :=
  if ["str", "object"].contains operation.owner then gives (Value.boundClass operation.form)
  else unsuitedMethod operation

/-- What an operation with an answer of its own makes of a label. -/
def ownAnswer (registry : Registry) (imports : Imports) (receiver : Value)
    (operation : Operation) (label : String) : Report Compiler :=
  match operation.name, receiver with
  | "__getattribute__", _ =>
    (attributeOf registry imports receiver label).bind (asCompiler registry imports)
  | "__delattr__", _ => remove registry imports receiver label
  | "__format__", _ => lay receiver label
  | "__new__", _ =>
    refusesType (operation.owner ++ ".__new__(X): X is not a type object (str)")
  | "__class_getitem__", _ => noCompiler ("type object '" ++ operation.owner ++ "'")
  | "__init__", .module name => renameModule name label
  | "__get__", .unbound operation => rebound operation
  | "compile", .built compiler => (compiler.compile label).bind fun model => gives model.typeName
  | "index", .sample "list" => refusesValue (Text.quoted label ++ " is not in list")
  | name, .text text => textAnswer text name label
  | name, .catalogue _ => viewAnswer registry imports receiver name label
  | name, _ => mappingAnswer registry imports receiver name label

/-- An operation that is called with a label. -/
def operate (registry : Registry) (imports : Imports) (receiver : Value) (operation : Operation)
    (label : String) : Report Compiler :=
  match operation.need with
  | .nothing => nothingWanted receiver operation
  | .index => refusesType "'str' object cannot be interpreted as an integer"
  | .pair => refusesType " expected 2 arguments, got 1"
  | .gives className => gives className
  | .refuses faultClass message => refuses faultClass message
  | .own => ownAnswer registry imports receiver operation label

/-- What the methods of texts give without more than a text. -/
def aloneGives : List (String × List String) := [
  ("str", ["capitalize", "casefold", "expandtabs", "lower", "lstrip", "rstrip", "strip",
    "swapcase", "title", "upper", "__repr__", "__str__"]),
  ("bool", ["isalnum", "isalpha", "isascii", "isdecimal", "isdigit", "isidentifier", "islower",
    "isnumeric", "isprintable", "isspace", "istitle", "isupper"]),
  ("int", ["__hash__", "__len__", "__sizeof__"]),
  ("list", ["__dir__", "rsplit", "split", "splitlines"]),
  ("tuple", ["__getnewargs__"]), ("bytes", ["encode"]),
  ("NoneType", ["__getstate__", "__init__"])]

/-- Methods that want one value or more, and how they say so. -/
def aloneRefusal (operation : Operation) : String :=
  let name := operation.name
  if ["count", "endswith", "find", "index", "rfind", "rindex", "startswith"].contains name then
    name ++ "() takes at least 1 argument (0 given)"
  else if ["center", "ljust", "rjust"].contains name then
    name ++ " expected at least 1 argument, got 0"
  else if name == "replace" then "replace expected at least 2 arguments, got 0"
  else if name == "__reduce__" then "cannot pickle 'str' object"
  else if operation.form == .method then
    operation.owner ++ "." ++ name ++ "() takes exactly one argument (0 given)"
  else if name == "__setattr__" then " expected 2 arguments, got 0"
  else if ["__mul__", "__rmul__"].contains name then " expected 1 argument, got 0"
  else "expected 1 argument, got 0"

def isAscii (text : String) : Bool := text.toList.all fun c => c.toNat < 128

/-- An operation of texts that is called with nothing but a text. -/
def alone (operation : Operation) (label : String) : Report Compiler :=
  match operation.name with
  | "__iter__" => gives (if isAscii label then "str_ascii_iterator" else "str_iterator")
  | "format" => givesUnless (Template.trouble? .empty label) "str"
  | name =>
    match aloneGives.find? (·.2.contains name) with
    | some (className, _) => gives className
    | none => refusesType (aloneRefusal operation)

/-- A routine of where a module was found, for a text in that place. -/
def misplacedRoutine (name : String) : Report Compiler :=
  match name with
  | "__init__" => refusesType
      "ModuleSpec.__init__() missing 2 required positional arguments: 'name' and 'loader'"
  | "__eq__" =>
    refusesType "ModuleSpec.__eq__() missing 1 required positional argument: 'other'"
  | _ => refusesAttribute "'str' object has no attribute 'name'"

def operateAlone (operation : Operation) (label : String) : Report Compiler :=
  if ["str", "object"].contains operation.owner then alone operation label
  else match operation.form with
    | .routine => misplacedRoutine operation.name
    | .operator => refusesType ("descriptor '" ++ operation.name ++ "' requires a '" ++
        operation.owner ++ "' object but received a 'str'")
    | _ => unsuitedMethod operation

/-- A value that is called with a label. -/
def apply (registry : Registry) (imports : Imports) : Value → String → Report Compiler
  | .defined definition, label =>
    match definition.factory with
    | some factory => factory.build label
    | none => .fail (Fault.typeFault ("'" ++ definition.kind ++ "' object is not callable"))
  | .type className, label => construct className label
  | .unbound operation, label => operateAlone operation label
  | .bound receiver operation, label =>
    if operation.name == "__call__" then apply registry imports receiver label
    else operate registry imports receiver operation label
  | value, _ => .fail (Fault.typeFault ("'" ++ value.className ++ "' object is not callable"))

/-- A value in the place of a factory, as long as nothing else changes the modules. -/
def factoryOf (registry : Registry) (value : Value) (imports : Imports) : Factory :=
  ⟨apply registry imports value⟩

end FactIntake.Import
