import FactIntake.Literal.Grammar.Words

/-!
The parameters of a function: those without a value of their own, those with one, the starred ones,
and what is wrong with other orders of them. All that is kept of parameters is their values.
-/

namespace FactIntake.Literal.Grammar

open Literal.Parser

/-- What ends a parameter: a comma, or the colon, which stays. -/
def endsParameter : Parser Unit := (mark ",").or (ahead (mark ":"))

def defaultValue (rules : Rules) : Parser Term := nested <| firstOf [
  (do mark "="; rules .expression),
  (do
    checked do
      mark "="
      ahead (firstOf [mark ")", mark ","])
      (refuse "expected default value expression" : Parser Unit)
    fail)]

def bareParameter : Parser Unit := do
  let _ ← name
  endsParameter

def filledParameter (rules : Rules) : Parser Term := nested do
  let _ ← name
  let value ← defaultValue rules
  endsParameter
  return value

def anyParameter (rules : Rules) : Parser (Option Term) := nested do
  let _ ← name
  let value ← (defaultValue rules).optional
  endsParameter
  return value

def bareSlash : Parser Unit := do
  let _ ← bareParameter.atLeastOnce
  mark "/"
  endsParameter

def filledSlash (rules : Rules) : Parser (List Term) := nested do
  let _ ← bareParameter.many
  let values ← (filledParameter rules).atLeastOnce
  mark "/"
  endsParameter
  return values

def strayStarred (rules : Rules) : Parser Unit := nested <| firstOf [
  (do
    mark "*"
    (mark ":").or do
      mark ","
      (mark ":").or (mark "**")
    refuse "named arguments must follow bare *"),
  (do
    mark "*"
    let _ ← name
    mark "="
    refuse "var-positional argument cannot have default value"),
  (do
    mark "*"
    bareParameter.or (mark ",")
    let _ ← (anyParameter rules).repeated
    mark "*"
    bareParameter.or (mark ",")
    refuse "* argument may appear only once")]

def strayUnpacked : Parser Unit := firstOf [
  (do
    mark "**"
    let _ ← name
    mark "="
    refuse "var-keyword argument cannot have default value"),
  (do
    mark "**"
    let _ ← name
    mark ","
    firstOf [(do let _ ← name), mark "*", mark "**", mark "/"]
    refuse "arguments cannot follow var-keyword argument")]

def unpackedParameter : Parser Unit := do
  checked strayUnpacked
  mark "**"
  bareParameter

def starredParameters (rules : Rules) : Parser (List Term) := nested do
  checked (strayStarred rules)
  firstOf [
    (do
      mark "*"
      bareParameter
      let values ← (anyParameter rules).repeated
      let _ ← unpackedParameter.optional
      return values.filterMap id),
    (do
      mark "*"
      mark ","
      let values ← (anyParameter rules).atLeastOnce
      let _ ← unpackedParameter.optional
      return values.filterMap id),
    (do
      unpackedParameter
      return [])]

def someStarred (rules : Rules) : Parser (List Term) := do
  return ((← (starredParameters rules).optional).getD [])

/-- Parameters with a value after those without, and the starred ones behind. -/
def filledParameters (rules : Rules) : Parser (List Term) := do
  let values ← (filledParameter rules).repeated
  return values ++ (← someStarred rules)

def parameters (rules : Rules) : Parser (List Term) := nested <| firstOf [
  (do
    bareSlash
    let _ ← bareParameter.many
    filledParameters rules),
  (do
    let values ← filledSlash rules
    return values ++ (← filledParameters rules)),
  (do
    let _ ← bareParameter.atLeastOnce
    filledParameters rules),
  (do
    let values ← (filledParameter rules).atLeastOnce
    return values ++ (← someStarred rules)),
  starredParameters rules]

def anySlash (rules : Rules) : Parser Unit := bareSlash.or do let _ ← filledSlash rules

def strayParameters (rules : Rules) : Parser Unit := nested <| firstOf [
  (do
    let _ ← bareParameter.many
    nested do
      firstOf [
        (do let _ ← filledSlash rules),
        (do let _ ← (filledParameter rules).atLeastOnce)]
    bareParameter
    refuse "non-default argument follows default argument"),
  (do
    let _ ← bareParameter.many
    mark "("
    let _ ← separated name
    let _ ← (mark ",").optional
    mark ")"
    refuse "Lambda expression parameters cannot be parenthesized"),
  (do
    mark "/"
    mark ","
    refuse "at least one argument must precede /"),
  (do
    nested (anySlash rules)
    let _ ← (anyParameter rules).repeated
    mark "/"
    refuse "/ may appear only once"),
  (do
    let _ ← (nested (anySlash rules)).optional
    let _ ← (anyParameter rules).repeated
    mark "*"
    (mark ",").or bareParameter
    let _ ← (anyParameter rules).repeated
    mark "/"
    refuse "/ must be ahead of *"),
  (do
    let _ ← (anyParameter rules).atLeastOnce
    mark "/"
    mark "*"
    refuse "expected comma between / and *")]

end FactIntake.Literal.Grammar
