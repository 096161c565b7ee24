import FactIntake.Outcome

/-!
Compilers. A factory builds a compiler for the label of a source, and the compiler turns the text of
that source into a model. Either may fail, and either may log.
-/

namespace FactIntake

structure Compiler where
  compile : String → Report Model

structure Factory where
  build : String → Report Compiler

instance : Inhabited Factory := ⟨⟨fun _ => .fail (Fault.facts "")⟩⟩

/-- Builds a compiler for a label and has it compile a text. -/
def Factory.run (factory : Factory) (label text : String) : Report Model := do
  let compiler ← factory.build label
  compiler.compile text

/-- A factory of which each call is on record, and each call of the compilers that it builds. -/
def Factory.recorded (build : String → Outcome (String → Outcome Model)) : Factory :=
  ⟨fun label => (Report.call (.build label) (build label)).bind fun compile =>
    .succeed ⟨fun text => Report.call (.compile label text) (compile text)⟩⟩

/-- A value of the named type in the place of a factory. Trying to build with it fails. -/
def Factory.notCallable (typeName : String) : Factory :=
  ⟨fun _ => .fail (Fault.typeFault ("'" ++ typeName ++ "' object is not callable"))⟩

end FactIntake
