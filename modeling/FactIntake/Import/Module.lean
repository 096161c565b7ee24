import FactIntake.Compiler

/-!
Modules that can be imported, and what is known of those that are loaded: their names, and the
attributes that were changed since.
-/

namespace FactIntake

/-- Something that a module defines: it may be a compiler factory, and may have attributes. -/
structure Definition where
  kind : String
  id : Option String
  attributes : List (String × Definition)
  factory : Option Factory
deriving Inhabited

/-- What becomes of loading a module, and the calls that its own code makes by then. -/
structure Loading where
  calls : List Call
  outcome : Outcome Unit

namespace Loading

def quiet : Loading := ⟨[], .succeed ()⟩

def report (loading : Loading) : Report Unit :=
  ⟨loading.outcome.result, loading.calls, loading.outcome.events, []⟩

/-- Loading a module of which only what it raises is known. -/
instance : Coe (Option Raised) Loading where
  coe
    | none => quiet
    | some raised => ⟨[], raised.outcome⟩

end Loading

structure Module where
  isPackage : Bool
  attributes : List (String × Definition)
  loading : Loading

/-- The modules that can be imported, by full name. -/
abbrev Registry := String → Option Module

/-- The names of the loaded modules, in the order in which they were loaded, and the changes of
their attributes, the latest first. -/
structure Imports where
  loaded : List String
  changes : List Change
deriving DecidableEq, Repr

namespace Imports

def empty : Imports := ⟨[], []⟩

def has (imports : Imports) (name : String) : Bool := imports.loaded.contains name

/-- What an attribute was changed to. -/
def remnant? (imports : Imports) (moduleName attr : String) : Option Remnant :=
  (imports.changes.find? fun change =>
    change.moduleName == moduleName && change.attr == attr).map (·.remnant)

def change (imports : Imports) (changes : List Change) : Imports :=
  { imports with changes := changes.reverse ++ imports.changes }

/-- Adds a loaded module, which becomes an attribute of its parent whatever that was before. -/
def add (imports : Imports) (parent : Option String) (name : String) : Imports :=
  let isReplaced (change : Change) : Bool :=
    parent.any fun parent => change.moduleName == parent &&
      parent ++ "." ++ change.attr == name
  ⟨imports.loaded ++ [name], imports.changes.filter (!isReplaced ·)⟩

end Imports

namespace Import

/-- The name of a child of a module. -/
def childName (parent child : String) : String := parent ++ "." ++ child

/-- The package that a module stands in, which is itself if it is one. -/
def packageOf (isPackage : Bool) (moduleName : String) : String :=
  if isPackage then moduleName
  else ".".intercalate (Text.pieces '.' moduleName).dropLast

end Import

end FactIntake
