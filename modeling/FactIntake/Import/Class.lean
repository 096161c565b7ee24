/-!
Classes of values, and what every value has by its class: operations, which can be called, and
fields. Most operations make the same of every text: they refuse it, because they want something
else or nothing at all, or they give a value of a fixed class.
-/

namespace FactIntake.Import

/-- How an operation belongs to its class. -/
inductive Form
  /-- What a sign of the language stands for; it is called with a fixed number of values. -/
  | operator
  | method
  /-- An operation of the class itself. -/
  | shared
  /-- An operation that is kept in the class and is bound to nothing. -/
  | loose
  /-- An operation that is written out in the language. -/
  | routine
deriving DecidableEq, Repr

/-- What an operation wants beside its value, or what it gives for a text. -/
inductive Need
  | nothing
  | index
  | pair
  | gives (className : String)
  | refuses (faultClass message : String)
  /-- The answer depends on the text. -/
  | own
deriving DecidableEq, Repr

structure Group where
  form : Form
  need : Need
  names : List String

structure Class where
  groups : List Group
  fields : List String

structure Operation where
  owner : String
  name : String
  form : Form
  need : Need
deriving DecidableEq, Repr

namespace Class

def unsuited : Need := .gives "NotImplementedType"

def equalities : List String := ["__eq__", "__ne__"]
def orderings : List String := ["__ge__", "__gt__", "__le__", "__lt__"]
def comparisons : List String := equalities ++ orderings

def access : Group := ⟨.operator, .own, ["__getattribute__"]⟩
def display : Group := ⟨.operator, .nothing, ["__repr__"]⟩
def creation : Group := ⟨.loose, .own, ["__new__"]⟩
def parameters : Group := ⟨.shared, .own, ["__class_getitem__"]⟩
def calling : Group := ⟨.operator, .own, ["__call__"]⟩

def value : Class := ⟨[
  ⟨.operator, .nothing, ["__hash__", "__repr__", "__str__"]⟩,
  ⟨.operator, unsuited, comparisons⟩,
  ⟨.operator, .pair, ["__setattr__"]⟩,
  ⟨.operator, .gives "NoneType", ["__init__"]⟩,
  ⟨.operator, .own, ["__delattr__", "__getattribute__"]⟩,
  ⟨.method, .nothing, ["__dir__", "__getstate__", "__reduce__", "__sizeof__"]⟩,
  ⟨.method, .index, ["__reduce_ex__"]⟩,
  ⟨.method, .own, ["__format__"]⟩,
  ⟨.shared, .nothing, ["__init_subclass__"]⟩,
  ⟨.shared, unsuited, ["__subclasshook__"]⟩,
  creation], ["__class__", "__doc__"]⟩

/-- The class of classes. -/
def ofClasses : Class := ⟨[
  calling, access, display,
  ⟨.operator, unsuited, ["__or__", "__ror__"]⟩,
  ⟨.operator, .own, ["__delattr__", "__init__", "__setattr__"]⟩,
  ⟨.method, .nothing, ["__dir__", "__sizeof__", "__subclasses__", "mro"]⟩,
  ⟨.method, .gives "bool", ["__instancecheck__"]⟩,
  ⟨.method, .refuses "TypeError" "issubclass() arg 1 must be a class", ["__subclasscheck__"]⟩,
  ⟨.shared, .gives "dict", ["__prepare__"]⟩,
  creation],
  ["__abstractmethods__", "__annotations__", "__base__", "__bases__", "__basicsize__", "__dict__",
   "__dictoffset__", "__doc__", "__flags__", "__itemsize__", "__module__", "__mro__", "__name__",
   "__qualname__", "__text_signature__", "__weakrefoffset__"]⟩

def text : Class := ⟨[
  access,
  ⟨.operator, .nothing, ["__hash__", "__iter__", "__len__", "__repr__", "__str__"]⟩,
  ⟨.operator, .gives "bool", "__contains__" :: comparisons⟩,
  ⟨.operator, .gives "str", ["__add__"]⟩,
  ⟨.operator, .index, ["__mul__", "__rmul__"]⟩,
  ⟨.operator, .refuses "TypeError" "string indices must be integers, not 'str'",
    ["__getitem__"]⟩,
  ⟨.operator, .own, ["__mod__", "__rmod__"]⟩,
  ⟨.method, .nothing, ["__getnewargs__", "__sizeof__", "capitalize", "casefold", "isalnum",
    "isalpha", "isascii", "isdecimal", "isdigit", "isidentifier", "islower", "isnumeric",
    "isprintable", "isspace", "istitle", "isupper", "lower", "swapcase", "title", "upper"]⟩,
  ⟨.method, .index, ["center", "expandtabs", "ljust", "rjust", "splitlines", "zfill"]⟩,
  ⟨.method, .gives "bool", ["endswith", "startswith"]⟩,
  ⟨.method, .gives "int", ["count", "find", "rfind"]⟩,
  ⟨.method, .gives "list", ["rsplit", "split"]⟩,
  ⟨.method, .gives "tuple", ["partition", "rpartition"]⟩,
  ⟨.method, .gives "str",
    ["join", "lstrip", "removeprefix", "removesuffix", "rstrip", "strip", "translate"]⟩,
  ⟨.method, .refuses "TypeError" "replace expected at least 2 arguments, got 1", ["replace"]⟩,
  ⟨.method, .own, ["__format__", "encode", "format", "format_map", "index", "rindex"]⟩,
  ⟨.loose, .refuses "TypeError" "if you give only one argument to maketrans it must be a dict",
    ["maketrans"]⟩,
  creation], []⟩

def nothing : Class := ⟨[⟨.operator, .nothing, ["__bool__", "__repr__"]⟩, creation], []⟩

def noPairs : Need :=
  .refuses "ValueError" "dictionary update sequence element #0 has length 1; 2 is required"

def mapping : Class := ⟨[
  access,
  ⟨.operator, .nothing, ["__iter__", "__len__", "__repr__"]⟩,
  ⟨.operator, unsuited, comparisons ++ ["__or__", "__ror__"]⟩,
  ⟨.operator, noPairs, ["__init__", "__ior__"]⟩,
  ⟨.operator, .pair, ["__setitem__"]⟩,
  ⟨.operator, .own, ["__delitem__"]⟩,
  ⟨.method, .nothing,
    ["__reversed__", "__sizeof__", "clear", "copy", "items", "keys", "popitem", "values"]⟩,
  ⟨.method, .gives "bool", ["__contains__"]⟩,
  ⟨.method, noPairs, ["update"]⟩,
  ⟨.method, .own, ["__getitem__", "get", "pop", "setdefault"]⟩,
  ⟨.shared, .gives "dict", ["fromkeys"]⟩,
  parameters, creation], ["__hash__"]⟩

def view : Class := ⟨[
  access,
  ⟨.operator, .nothing, ["__iter__", "__len__", "__repr__", "__str__"]⟩,
  ⟨.operator, .gives "bool", "__contains__" :: equalities⟩,
  ⟨.operator, .own, orderings ++ ["__getitem__", "__or__", "__ror__"]⟩,
  ⟨.operator, .refuses "TypeError" "'|=' is not supported by mappingproxy; use '|' instead",
    ["__ior__"]⟩,
  ⟨.method, .nothing, ["__reversed__", "copy", "items", "keys", "values"]⟩,
  ⟨.method, .own, ["get"]⟩,
  parameters, creation], ["__hash__"]⟩

def module : Class := ⟨[
  access, display,
  ⟨.operator, .own, ["__delattr__", "__init__"]⟩,
  ⟨.operator, .pair, ["__setattr__"]⟩,
  ⟨.method, .nothing, ["__dir__"]⟩,
  creation], ["__annotations__", "__dict__"]⟩

def origin : Class := ⟨[
  ⟨.routine, unsuited, ["__eq__"]⟩,
  ⟨.routine, .refuses "TypeError"
    "ModuleSpec.__init__() missing 1 required positional argument: 'loader'", ["__init__"]⟩,
  ⟨.routine, .refuses "TypeError"
    "ModuleSpec.__repr__() takes 1 positional argument but 2 were given", ["__repr__"]⟩],
  ["__dict__", "__hash__", "__module__", "__weakref__", "cached", "has_location", "parent"]⟩

def loader : Class := ⟨[
  ⟨.routine, .gives "NoneType", ["create_module"]⟩,
  ⟨.routine, .refuses "AttributeError" "'str' object has no attribute '__name__'",
    ["exec_module"]⟩], ["__dict__", "__module__", "__weakref__"]⟩

def wrongIndex (className : String) : Need :=
  .refuses "TypeError" (className ++ " indices must be integers or slices, not str")

def noJoining (className : String) : Need :=
  .refuses "TypeError"
    ("can only concatenate " ++ className ++ " (not \"str\") to " ++ className)

def tuple : Class := ⟨[
  access,
  ⟨.operator, .nothing, ["__hash__", "__iter__", "__len__", "__repr__"]⟩,
  ⟨.operator, unsuited, comparisons⟩,
  ⟨.operator, .gives "bool", ["__contains__"]⟩,
  ⟨.operator, .index, ["__mul__", "__rmul__"]⟩,
  ⟨.operator, noJoining "tuple", ["__add__"]⟩,
  ⟨.operator, wrongIndex "tuple", ["__getitem__"]⟩,
  ⟨.method, .nothing, ["__getnewargs__"]⟩,
  ⟨.method, .gives "int", ["count"]⟩,
  ⟨.method, .refuses "ValueError" "tuple.index(x): x not in tuple", ["index"]⟩,
  parameters, creation], []⟩

def list : Class := ⟨[
  access,
  ⟨.operator, .nothing, ["__iter__", "__len__", "__repr__"]⟩,
  ⟨.operator, unsuited, comparisons⟩,
  ⟨.operator, .gives "bool", ["__contains__"]⟩,
  ⟨.operator, .gives "list", ["__iadd__"]⟩,
  ⟨.operator, .gives "NoneType", ["__init__"]⟩,
  ⟨.operator, .index, ["__imul__", "__mul__", "__rmul__"]⟩,
  ⟨.operator, .pair, ["__setitem__"]⟩,
  ⟨.operator, noJoining "list", ["__add__"]⟩,
  ⟨.operator, wrongIndex "list", ["__delitem__"]⟩,
  ⟨.method, .nothing, ["__reversed__", "__sizeof__", "clear", "copy", "reverse"]⟩,
  ⟨.method, .gives "NoneType", ["append", "extend"]⟩,
  ⟨.method, .gives "int", ["count"]⟩,
  ⟨.method, .index, ["pop"]⟩,
  ⟨.method, wrongIndex "list", ["__getitem__"]⟩,
  ⟨.method, .refuses "TypeError" "insert expected 2 arguments, got 1", ["insert"]⟩,
  ⟨.method, .refuses "ValueError" "list.remove(x): x not in list", ["remove"]⟩,
  ⟨.method, .refuses "TypeError" "sort() takes no positional arguments", ["sort"]⟩,
  ⟨.method, .own, ["index"]⟩,
  parameters, creation], ["__hash__"]⟩

def number : Class := ⟨[
  access,
  ⟨.operator, .nothing, ["__abs__", "__bool__", "__float__", "__hash__", "__index__", "__int__",
    "__invert__", "__neg__", "__pos__", "__repr__"]⟩,
  ⟨.operator, unsuited, comparisons ++ ["__add__", "__and__", "__divmod__", "__floordiv__",
    "__lshift__", "__mod__", "__mul__", "__or__", "__pow__", "__radd__", "__rand__",
    "__rdivmod__", "__rfloordiv__", "__rlshift__", "__rmod__", "__rmul__", "__ror__", "__rpow__",
    "__rrshift__", "__rshift__", "__rsub__", "__rtruediv__", "__rxor__", "__sub__",
    "__truediv__", "__xor__"]⟩,
  ⟨.method, .nothing, ["__ceil__", "__floor__", "__getnewargs__", "__sizeof__", "__trunc__",
    "as_integer_ratio", "bit_count", "bit_length", "conjugate"]⟩,
  ⟨.method, .index, ["__round__", "to_bytes"]⟩,
  ⟨.method, .own, ["__format__"]⟩,
  ⟨.shared, .refuses "TypeError" "cannot convert 'str' object to bytes", ["from_bytes"]⟩,
  creation], ["denominator", "imag", "numerator", "real"]⟩

def truth : Class := ⟨[
  display,
  ⟨.operator, unsuited, ["__and__", "__or__", "__rand__", "__ror__", "__rxor__", "__xor__"]⟩,
  creation], []⟩

/-- An operation that is bound to a value. -/
def boundOperation (fields : List String) : Class := ⟨[
  calling, access,
  ⟨.operator, .nothing, ["__hash__", "__repr__"]⟩,
  ⟨.operator, unsuited, comparisons⟩,
  ⟨.method, .nothing, ["__reduce__"]⟩],
  fields ++ ["__doc__", "__name__", "__qualname__", "__self__", "__text_signature__"]⟩

/-- An operation that is taken from its class. -/
def looseOperation : Class := ⟨[
  calling, access, display,
  ⟨.operator, .own, ["__get__"]⟩,
  ⟨.method, .nothing, ["__reduce__"]⟩],
  ["__doc__", "__name__", "__objclass__", "__qualname__", "__text_signature__"]⟩

def boundRoutine : Class := ⟨[
  calling, access,
  ⟨.operator, .nothing, ["__hash__", "__repr__"]⟩,
  ⟨.operator, unsuited, comparisons⟩,
  ⟨.operator, .own, ["__delattr__"]⟩,
  ⟨.operator, .pair, ["__setattr__"]⟩,
  ⟨.method, .nothing, ["__reduce__"]⟩,
  creation], ["__doc__", "__func__", "__module__", "__name__", "__qualname__", "__self__"]⟩

def routine : Class := ⟨[
  calling, display,
  ⟨.operator, .gives "method", ["__get__"]⟩,
  creation],
  ["__annotations__", "__builtins__", "__closure__", "__code__", "__defaults__", "__dict__",
   "__doc__", "__globals__", "__kwdefaults__", "__module__", "__name__", "__qualname__"]⟩

end Class

/-- The classes that values are known to have. -/
def classes : List (String × Class) := [
  ("object", .value), ("type", .ofClasses), ("str", .text), ("NoneType", .nothing),
  ("dict", .mapping), ("mappingproxy", .view), ("module", .module), ("ModuleSpec", .origin),
  ("Loader", .loader), ("tuple", .tuple), ("list", .list), ("int", .number), ("bool", .truth),
  ("builtin_function_or_method", .boundOperation ["__module__"]),
  ("method-wrapper", .boundOperation ["__objclass__"]),
  ("method_descriptor", .looseOperation), ("wrapper_descriptor", .looseOperation),
  ("method", .boundRoutine), ("function", .routine)]

/-- The class and the classes above it. -/
def lineage (className : String) : List String :=
  if className == "object" then ["object"]
  else if className == "bool" then ["bool", "int", "object"]
  else [className, "object"]

/-- What a class itself has under a name. -/
inductive Entry
  | operation (operation : Operation)
  | field (name : String)
deriving DecidableEq, Repr

/-- The entry of a class itself. -/
def declared? (className name : String) : Option Entry := do
  let found ← classes.lookup className
  match found.groups.find? (·.names.contains name) with
  | some group => some (.operation ⟨className, name, group.form, group.need⟩)
  | none => if found.fields.contains name then some (.field name) else none

/-- The entry that a value of a class has, by the lowest class that has it. -/
def inherited? (className name : String) : Option Entry :=
  (lineage className).findSome? (declared? · name)

end FactIntake.Import
