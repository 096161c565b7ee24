import FactIntake.Literal

/-!
Parameters of a handler: the name of an action with its arguments in brackets, or the arguments
alone. The arguments are a value in its notation; nothing is done with them here, but they have to
be one.
-/

namespace FactIntake.Console

/-- Why the parameters of a handler cannot be read. -/
structure HandlerFlaw where
  parameters : String
  /-- The part of the parameters that is to be a value. -/
  arguments : String
  refusal : Literal.Refusal

def HandlerFlaw.message (flaw : HandlerFlaw) : String :=
  let parameters := Text.quoted flaw.parameters
  match flaw.refusal with
  | .misspelt message =>
    "error parsing " ++ Text.quoted flaw.arguments ++ " in " ++ parameters ++ "; " ++ message
  | .worthless message => "error parsing " ++ parameters ++ "; " ++ message

/-- The arguments in parameters: those in brackets after a name, none after a name alone, and else
all there is. -/
def argumentsOf (parameters : List Char) : List Char :=
  let afterName := parameters.dropWhile fun c => Text.isWordChar c || c == '.'
  match afterName with
  | [] => ['(', ')']
  | '(' :: rest =>
    if rest.getLast? == some ')' && !rest.contains '\n' then afterName else parameters
  | _ => parameters

/-- Why parameters cannot be read; there may be none. Reading may give rise to warnings. -/
def handlerFlaw? (parameters : List Char) :
    StateM (Array Literal.Warning) (Option HandlerFlaw) := do
  if parameters.isEmpty then return none
  let arguments := argumentsOf (Text.stripChars parameters)
  return (← Literal.refusal? arguments).map fun refusal =>
    ⟨String.ofList parameters, String.ofList arguments, refusal⟩

end FactIntake.Console
