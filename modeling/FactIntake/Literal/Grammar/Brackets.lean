import FactIntake.Literal.Grammar.Loops

/-!
Terms in brackets: groups, tuples, sets and mappings, spelled out or made by loops.
-/

namespace FactIntake.Literal.Grammar

open Literal.Parser

/-- Members with commas between them, and maybe one behind. -/
def members (rules : Rules) : Parser (List Term) := nested do
  let items ← separated (rules .member)
  let _ ← (mark ",").optional
  return items

/-- A star before a loop, and several targets without brackets around them. -/
def strayLoop (rules : Rules) : Parser Unit := nested <|
  let noTarget : String := "did you forget parentheses around the comprehension target?"
  let curly : Parser Unit := nested <| firstOf [mark "[", mark "\x7b"]
  firstOf [
    (do
      nested <| firstOf [mark "[", mark "(", mark "\x7b"]
      let _ ← starredTerm rules
      let _ ← loops rules
      refuse "iterable unpacking cannot be used in comprehension"),
    (do
      curly
      let _ ← rules .member
      mark ","
      let _ ← members rules
      let _ ← loops rules
      refuse noTarget),
    (do
      curly
      let _ ← rules .member
      mark ","
      let _ ← loops rules
      refuse noTarget)]

def strayGroup (rules : Rules) : Parser Unit := nested <| firstOf [
  (do
    mark "("
    let _ ← starredTerm rules
    mark ")"
    refuse "cannot use starred expression here"),
  (do
    mark "("
    mark "**"
    let _ ← rules .expression
    mark ")"
    refuse "cannot use double starred expression here")]

def tuple (rules : Rules) : Parser Term := nested do
  mark "("
  let items ← optional <| nested do
    let first ← rules .member
    mark ","
    return first :: ((← (members rules).optional).getD [])
  mark ")"
  return .tuple (items.getD [])

def yielded (rules : Rules) : Parser Term := nested do
  keyword "yield"
  firstOf [
    (do keyword "from"; return .yielded (some (← rules .expression))),
    (do return .yielded (← (starExpressions rules).optional))]

def group (rules : Rules) : Parser Term := nested <| firstOf [
  (do
    mark "("
    let term ← nested <| (yielded rules).or (rules .named)
    mark ")"
    return term),
  (do
    checked (strayGroup rules)
    fail)]

def generator (rules : Rules) : Parser Term := nested <| firstOf [
  (do
    mark "("
    let each ← assignable rules
    let loops ← loops rules
    mark ")"
    return .generator each loops),
  (do
    checked (strayLoop rules)
    fail)]

def pair (rules : Rules) : Parser (Term × Term) := nested do
  let key ← rules .expression
  mark ":"
  return (key, ← rules .expression)

def entry (rules : Rules) : Parser (Option Term × Term) := nested <| firstOf [
  (do mark "**"; return (none, ← rules .bitOr)),
  (do
    let (key, value) ← pair rules
    return (some key, value))]

def starredValue (rules : Rules) : Parser Unit := do
  let _ ← rules .expression
  mark ":"
  mark "*"
  let _ ← rules .bitOr
  refuse "cannot use a starred expression in a dictionary value"

def missingValue (rules : Rules) : Parser Unit := do
  let _ ← rules .expression
  mark ":"
  ahead (firstOf [mark "\x7d", mark ","])
  refuse "expression expected after dictionary key and ':'"

def strayPair (rules : Rules) : Parser Unit := nested <| firstOf [
  (do
    let _ ← rules .expression
    notAhead (mark ":")
    refuse "':' expected after dictionary key"),
  starredValue rules,
  missingValue rules]

def strayEntries (rules : Rules) : Parser Unit := nested <| firstOf [
  (do
    let _ ← separated (entry rules)
    mark ","
    strayPair rules),
  starredValue rules,
  missingValue rules]

def mapping (rules : Rules) : Parser Term := nested <| firstOf [
  (do
    mark "\x7b"
    let entries ← optional <| nested do
      let entries ← separated (entry rules)
      let _ ← (mark ",").optional
      return entries
    mark "\x7d"
    return .mapping (entries.getD [])),
  (do
    mark "\x7b"
    strayEntries rules
    fail)]

def set (rules : Rules) : Parser Term := nested do
  mark "\x7b"
  let items ← members rules
  mark "\x7d"
  return .set items

def strayUnpacking (rules : Rules) : Parser Unit := nested do
  mark "\x7b"
  mark "**"
  let _ ← rules .bitOr
  let _ ← loops rules
  mark "\x7d"
  refuse "dict unpacking cannot be used in dict comprehension"

def mappingOfEach (rules : Rules) : Parser Term := nested <| firstOf [
  (do
    mark "\x7b"
    let (key, value) ← pair rules
    let loops ← loops rules
    mark "\x7d"
    return .mappingOfEach key value loops),
  (do
    checked (strayUnpacking rules)
    fail)]

def setOfEach (rules : Rules) : Parser Term := nested <| firstOf [
  (do
    mark "\x7b"
    let each ← rules .named
    let loops ← loops rules
    mark "\x7d"
    return .setOfEach each loops),
  (do
    checked (strayLoop rules)
    fail)]

end FactIntake.Literal.Grammar
