/-!
Classes of faults. Every class but the widest has one parent; a fault belongs to its own class and
to all classes above it.
-/

namespace FactIntake.Fault

/-- The classes that have a parent other than `Exception`. -/
def parents : List (String × String) := [
  ("Exception", "BaseException"), ("KeyboardInterrupt", "BaseException"),
  ("SystemExit", "BaseException"), ("GeneratorExit", "BaseException"),
  ("BaseExceptionGroup", "BaseException"),
  ("FloatingPointError", "ArithmeticError"), ("OverflowError", "ArithmeticError"),
  ("ZeroDivisionError", "ArithmeticError"), ("ModuleNotFoundError", "ImportError"),
  ("IndexError", "LookupError"), ("KeyError", "LookupError"),
  ("UnboundLocalError", "NameError"),
  ("BlockingIOError", "OSError"), ("ChildProcessError", "OSError"),
  ("ConnectionError", "OSError"), ("BrokenPipeError", "ConnectionError"),
  ("ConnectionAbortedError", "ConnectionError"), ("ConnectionRefusedError", "ConnectionError"),
  ("ConnectionResetError", "ConnectionError"), ("FileExistsError", "OSError"),
  ("FileNotFoundError", "OSError"), ("InterruptedError", "OSError"),
  ("IsADirectoryError", "OSError"), ("NotADirectoryError", "OSError"),
  ("PermissionError", "OSError"), ("ProcessLookupError", "OSError"),
  ("TimeoutError", "OSError"),
  ("NotImplementedError", "RuntimeError"), ("RecursionError", "RuntimeError"),
  ("Abort", "RuntimeError"), ("Exit", "RuntimeError"),
  ("IndentationError", "SyntaxError"), ("TabError", "IndentationError"),
  ("UnicodeError", "ValueError"), ("UnicodeDecodeError", "UnicodeError"),
  ("UnicodeEncodeError", "UnicodeError"), ("UnicodeTranslateError", "UnicodeError"),
  ("JSONDecodeError", "ValueError"), ("ValidationError", "ValueError"),
  ("BytesWarning", "Warning"), ("DeprecationWarning", "Warning"),
  ("EncodingWarning", "Warning"), ("FutureWarning", "Warning"), ("ImportWarning", "Warning"),
  ("PendingDeprecationWarning", "Warning"), ("ResourceWarning", "Warning"),
  ("RuntimeWarning", "Warning"), ("SyntaxWarning", "Warning"), ("UnicodeWarning", "Warning"),
  ("UserWarning", "Warning"),
  ("SourceIOError", "FactsError"), ("CompileError", "FactsError"),
  ("CompileFailure", "FactsError"), ("ConfigurationError", "FactsError"),
  ("CLIError", "CommandLineError"), ("UsageError", "CommandLineError"),
  ("BadParameter", "UsageError"), ("MissingParameter", "BadParameter"),
  ("NoSuchOption", "UsageError"), ("BadOptionUsage", "UsageError"),
  ("NoSuchCommand", "UsageError")]

/-- The class directly above a class. -/
def parent? (className : String) : Option String :=
  if className == "BaseException" then none
  else some ((parents.lookup className).getD "Exception")

/-- The class and the classes above it, at most `fuel` of them. -/
def lineageUpTo : Nat → String → List String
  | 0, _ => []
  | fuel + 1, className =>
    className :: match parent? className with
      | some parent => lineageUpTo fuel parent
      | none => []

/-- The class and all classes above it; the deepest class has five of them. -/
def lineage (className : String) : List String := lineageUpTo 8 className

/-- Whether the class is `ancestor` or below it. -/
def isKindOf (className ancestor : String) : Bool := (lineage className).contains ancestor

end FactIntake.Fault
