import FactIntake.Json.Writer

/-!
What is wrong with a setting, and where.
-/

namespace FactIntake

/-- A step of the way to a value: a field, or an item counted from zero. -/
inductive Step
  | field (name : String)
  | item (index : Nat)
deriving DecidableEq, Repr

def Step.display : Step → String
  | field name => name
  | item index => Json.intText index

inductive Complaint
  | noText | noTuple | noItem | emptyText | unknownField | frozen
  | refused (reason : String)
deriving DecidableEq, Repr

structure Issue where
  complaint : Complaint
  place : List Step
deriving DecidableEq, Repr

namespace Complaint

def code : Complaint → String
  | noText => "string_type"
  | noTuple => "tuple_type"
  | noItem => "too_short"
  | emptyText => "string_too_short"
  | unknownField => "extra_forbidden"
  | frozen => "frozen_instance"
  | refused _ => "value_error"

def message : Complaint → String
  | noText => "Input should be a valid string"
  | noTuple => "Input should be a valid tuple"
  | noItem => "Tuple should have at least 1 item after validation, not 0"
  | emptyText => "String should have at least 1 character"
  | unknownField => "Extra inputs are not permitted"
  | frozen => "Instance is frozen"
  | refused reason => "Value error, " ++ reason

end Complaint

namespace Issue

def line (issue : Issue) : String :=
  "  - " ++ ".".intercalate (issue.place.map Step.display) ++ ": " ++ issue.complaint.message

/-- One line for each issue, under a heading. -/
def report (issues : List Issue) : String :=
  "\n".intercalate ("Invalid configuration:" :: issues.map line)

end Issue

end FactIntake
