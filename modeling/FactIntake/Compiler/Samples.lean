import FactIntake.Compiler
import FactIntake.Fault.Draft

/-!
Small compilers that stand in for real ones: they echo their input, take three opening brackets for
an error, return one model whatever the input, or always fail.
-/

namespace FactIntake.Samples

/-- What the sample compilers do not accept. -/
def refusedMark : String := "((("

def ofCompile (compile : String → String → Outcome Model) : Factory :=
  .recorded fun label => .succeed (compile label)

def always (result : Outcome Model) : Factory := ofCompile fun _ _ => result

def record (members : List (String × Model)) : Model :=
  .mapping (members.map fun member => (.text member.1, member.2))

/-- Rejects a text with the refused mark in it, at the first one. -/
def unlessRefused (message : String → Nat → String) (accept : String → String → Model)
    (label text : String) : Outcome Model :=
  match Text.find? refusedMark text with
  | some index =>
    (Draft.rejected (message label (index + 1)) (some label) (some 1) (some (index + 1 : Nat)) []
      none).raise.outcome
  | none => .succeed (accept label text)

/-- The label and the text, unchanged. -/
def echo : Factory :=
  ofCompile fun label text => .succeed (record [("label", .text label), ("text", .text text)])

/-- The words of the text. -/
def wordList : Factory :=
  ofCompile <| unlessRefused
    (fun label column => "  " ++ label ++ ": unexpected '" ++ refusedMark ++
      "' at line 1 column " ++ Json.intText column ++ "\n")
    (fun label text => record [("label", .text label),
      ("statements", .list ((Text.words text).map .text))])

/-- The statements of the text, each ended by a full stop, as a model that writes itself. -/
def statementList : Factory :=
  ofCompile <| unlessRefused
    (fun label _ => "unexpected '" ++ refusedMark ++ "' in " ++ label ++ "\n")
    (fun label text => .vocabulary label (Text.pieces '.' text))

def constant (model : Model) : Factory := always (.succeed model)

def failing (draft : Draft) : Factory := always draft.raise.outcome

/-- Fails before there is a compiler. -/
def unbuildable (draft : Draft) : Factory := .recorded fun _ => draft.raise.outcome

/-- A value that is no factory. -/
def value : Factory := .notCallable "Value"

end FactIntake.Samples
