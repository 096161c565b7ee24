import FactIntake.Json

/-!
Events that the program logs, each with its level, the component that logs it and its fields.
-/

namespace FactIntake

inductive SourceKind
  | file | stdin
deriving DecidableEq, Repr

def SourceKind.name : SourceKind → String
  | file => "file"
  | stdin => "stdin"

inductive Level
  | unset | debug | info | warning | error | critical
deriving DecidableEq, Repr

def Level.name : Level → String
  | unset => "notset"
  | debug => "debug"
  | info => "info"
  | warning => "warning"
  | error => "error"
  | critical => "critical"

/-- The name of a level as a setting. -/
def Level.setting : Level → String
  | unset => "NOTSET"
  | debug => "DEBUG"
  | info => "INFO"
  | warning => "WARNING"
  | error => "ERROR"
  | critical => "CRITICAL"

def Level.rank : Level → Nat
  | unset => 0
  | debug => 10
  | info => 20
  | warning => 30
  | error => 40
  | critical => 50

/-- The components that log; each has a logger of its own. -/
inductive Component
  | source | resolver | errors
deriving DecidableEq, Repr

def Component.name : Component → String
  | source => "facts_core.input.source"
  | resolver => "facts_core.compiler.resolver"
  | errors => "facts_core.errors"

inductive Event
  | sourceResolved (label : String) (kind : SourceKind)
  | sourceCompiled (label : String) (length : Nat)
  | sourceFailed (path errorType : String)
  | compilerResolved (reference : String)
  /-- An error was built with details that the user does not see. -/
  | factsError (errorType userMessage details : String)
deriving DecidableEq, Repr

namespace Event

def name : Event → String
  | sourceResolved .. => "source_resolved"
  | sourceCompiled .. => "source_compiled"
  | sourceFailed .. => "source_failed"
  | compilerResolved _ => "compiler_resolved"
  | factsError .. => "facts_error"

def level : Event → Level
  | sourceResolved .. | sourceCompiled .. | compilerResolved _ => .debug
  | sourceFailed .. => .info
  | factsError .. => .error

def component : Event → Component
  | sourceResolved .. | sourceCompiled .. | sourceFailed .. => .source
  | compilerResolved _ => .resolver
  | factsError .. => .errors

def fields : Event → List (String × Json)
  | sourceResolved label kind => [("label", .text label), ("kind", .text kind.name)]
  | sourceCompiled label length => [("label", .text label), ("length", .int length)]
  | sourceFailed path errorType => [("path", .text path), ("error_type", .text errorType)]
  | compilerResolved reference => [("reference", .text reference)]
  | factsError errorType userMessage details =>
    [("error_type", .text errorType), ("user_message", .text userMessage),
     ("internal_details", .text details)]

end Event

end FactIntake
