import FactIntake.Proofs.ModuleChains
import FactIntake.Proofs.ReferenceFaults

/-!
Values that a reference can lead to. They come from what modules define and from what is loaded. A
module may also keep a factory that is asked for the attributes that the module lacks, and answers with
a compiler; nothing else is called when an attribute is gone to, and only through such an answer does a
reference lead to a compiler.
-/

namespace FactIntake

namespace Import

variable {registry : Registry} {imports : Imports}

/-- A module comes with the factory to be asked for the attributes that it lacks. -/
def IsHook (registry : Registry) (factory : Factory) : Prop :=
  ∃ name found definition, registry name = some found ∧
    found.attributes.lookup "__getattr__" = some definition ∧ definition.factory = some factory

/-- A module has no such attribute, and still has the factory to be asked for those that it lacks. -/
structure Lacks (registry : Registry) (imports : Imports) (name attr : String) (factory : Factory) : Prop where
  missing : attribute? registry imports (.module name) attr = none
  hook : ∃ definition, member? registry imports name "__getattr__" = some (.defined definition) ∧
    definition.factory = some factory

theorem not_defined_of_given {name attr : String} (definition : Definition) :
    givenMember? registry name attr ≠ some (.defined definition) := by
  unfold givenMember?
  repeat' split
  all_goals simp [Value.nothing]

/-- A definition that a module has is one that it comes with. -/
theorem lookup_of_member {name attr : String} {definition : Definition}
    (h : member? registry imports name attr = some (.defined definition)) :
    ∃ found, registry name = some found ∧ found.attributes.lookup attr = some definition := by
  unfold member? at h
  cases hremnant : imports.remnant? name attr with
  | some remnant => cases remnant <;> simp [hremnant, Value.nothing] at h
  | none =>
    simp only [hremnant] at h
    split at h
    · simp at h
    · split at h
      · rename_i found hfound
        obtain ⟨home, hname, hlookup⟩ := Option.bind_eq_some_iff.mp hfound
        obtain rfl : found = definition := by simpa using h
        exact ⟨home, hname, hlookup⟩
      · exact absurd h (not_defined_of_given definition)

theorem Lacks.isHook {name attr : String} {factory : Factory} (h : Lacks registry imports name attr factory) :
    IsHook registry factory := by
  obtain ⟨definition, hmember, hfactory⟩ := h.hook
  obtain ⟨found, hfound, hlookup⟩ := lookup_of_member hmember
  exact ⟨name, found, definition, hfound, hlookup, hfactory⟩

theorem attributeOf_of_lacks {name attr : String} {factory : Factory}
    (h : Lacks registry imports name attr factory) :
    attributeOf registry imports (.module name) attr = (factory.build attr).bind (.succeed <| .built ·) := by
  obtain ⟨⟨kind, id, attributes, _⟩, hmember, rfl⟩ := h.hook
  simp only [attributeOf, h.missing, hmember, ask]

theorem ask_cases (hook : Value) (attr : String) : (∃ fault, ask hook attr = .fail fault) ∨
    ∃ definition factory, hook = .defined definition ∧ definition.factory = some factory := by
  unfold ask
  split
  · exact Or.inr ⟨_, _, rfl, rfl⟩
  · exact Or.inl ⟨_, rfl⟩

/-- An attribute is there, is missing, or its module asks a factory for it. -/
theorem attributeOf_cases (registry : Registry) (imports : Imports) (value : Value) (attr : String) :
    (∃ found, attribute? registry imports value attr = some found ∧
      attributeOf registry imports value attr = .succeed found) ∨
    (∃ fault, attributeOf registry imports value attr = .fail fault) ∨
    ∃ name factory, value = .module name ∧ Lacks registry imports name attr factory := by
  unfold attributeOf
  cases hfound : attribute? registry imports value attr with
  | some found => exact Or.inl ⟨found, rfl, rfl⟩
  | none =>
    refine Or.inr ?_
    cases value with
    | module name =>
      cases hmember : member? registry imports name "__getattr__" with
      | none =>
        simp only [hmember]
        exact Or.inl ⟨_, rfl⟩
      | some hook =>
        simp only [hmember]
        obtain hrefused | ⟨definition, factory, rfl, hfactory⟩ := ask_cases hook attr
        · exact Or.inl hrefused
        · exact Or.inr ⟨name, factory, rfl, hfound, definition, hmember, hfactory⟩
    | _ => exact Or.inl ⟨_, rfl⟩

/-- A module defines this, or something that it defines has it as an attribute. -/
inductive Defines (registry : Registry) : Definition → Prop
  | member {name attr : String} {found : Module} {definition : Definition}
      (hfound : registry name = some found) (hmember : found.attributes.lookup attr = some definition) :
      Defines registry definition
  | inner {attr : String} {outer definition : Definition} (houter : Defines registry outer)
      (hinner : outer.attributes.lookup attr = some definition) : Defines registry definition

/-- A value comes from what modules define, from the modules that are loaded, and from the compilers
that they gave for an attribute. -/
def Known (registry : Registry) (loaded : String → Prop) (given : String → Compiler → Prop) : Value → Prop
  | .defined definition => Defines registry definition
  | .module name => loaded name
  | .built compiler => ∃ attr, given attr compiler
  | .bound receiver _ => Known registry loaded given receiver
  | _ => True

/-- Where a value comes from, whichever modules are loaded by now. -/
abbrev Stems (registry : Registry) (given : String → Compiler → Prop) : Value → Prop :=
  Known registry (fun _ => True) given

theorem Known.mono {loaded loaded' : String → Prop} {given given' : String → Compiler → Prop} {value : Value}
    (hloaded : ∀ name, loaded name → loaded' name)
    (hgiven : ∀ attr compiler, given attr compiler → given' attr compiler)
    (h : Known registry loaded given value) : Known registry loaded' given' value := by
  induction value with
  | defined definition => exact h
  | module name => exact hloaded name h
  | built compiler =>
    obtain ⟨attr, hcompiler⟩ := h
    exact ⟨attr, hgiven attr compiler hcompiler⟩
  | bound receiver operation ih => exact ih h
  | _ => trivial

section Attributes

variable {loaded : String → Prop} {given : String → Compiler → Prop}

theorem known_of_some {value found : Value} (h : some value = some found)
    (hvalue : Known registry loaded given value) : Known registry loaded given found :=
  Option.some.inj h ▸ hvalue

theorem givenMember?_known {name attr : String} {value : Value}
    (h : givenMember? registry name attr = some value) : Known registry loaded given value := by
  unfold givenMember? at h
  split at h
  case h_6 =>
    split at h
    · exact known_of_some h trivial
    · simp at h
  case h_7 => simp at h
  all_goals exact known_of_some h trivial

/-- A child that is loaded is an attribute of its parent. -/
theorem member?_known {name attr : String} {value : Value}
    (hloaded : ∀ name, imports.has name = true → loaded name)
    (h : member? registry imports name attr = some value) : Known registry loaded given value := by
  unfold member? at h
  split at h
  · simp at h
  · exact known_of_some h trivial
  · exact known_of_some h trivial
  · simp only at h
    split at h
    · rename_i hchild
      exact known_of_some h (hloaded _ hchild)
    · split at h
      · rename_i definition hdefinition
        obtain ⟨found, hfound, hmember⟩ := Option.bind_eq_some_iff.mp hdefinition
        exact known_of_some h (Defines.member hfound hmember)
      · exact givenMember?_known h

theorem operationField_known {receiver : Option Value}
    (hreceiver : ∀ value ∈ receiver, Known registry loaded given value) (operation : Operation) (field : String) :
    Known registry loaded given (operationField receiver operation field) := by
  unfold operationField
  split
  case h_4 =>
    cases receiver with
    | none => exact trivial
    | some value => exact hreceiver value rfl
  all_goals exact trivial

theorem originField_known (moduleName field : String) :
    Known registry loaded given (originField registry moduleName field) := by
  unfold originField
  split <;> exact trivial

theorem fieldOf_known {value : Value} (hvalue : Known registry loaded given value) (field : String) :
    Known registry loaded given (fieldOf registry value field) := by
  unfold fieldOf
  split
  · exact trivial
  · split <;> exact trivial
  · split <;> exact trivial
  · exact originField_known _ _
  · exact operationField_known (by rintro _ ⟨⟩; exact hvalue) _ _
  · exact operationField_known (by simp) _ _
  all_goals exact trivial

theorem bind_known {value : Value} (hvalue : Known registry loaded given value) (operation : Operation) :
    Known registry loaded given (bind value operation) := by
  unfold bind
  split
  · exact trivial
  · exact trivial
  · exact hvalue

theorem classAttribute?_known {value found : Value} {attr : String} (hvalue : Known registry loaded given value)
    (h : classAttribute? registry value attr = some found) : Known registry loaded given found := by
  obtain ⟨entry, -, hentry⟩ := Option.map_eq_some_iff.mp h
  cases entry with
  | operation operation => exact hentry ▸ bind_known hvalue operation
  | field field => exact hentry ▸ fieldOf_known hvalue field

theorem plainAttribute?_known {value found : Value} {attr : String} (hvalue : Known registry loaded given value)
    (h : plainAttribute? registry value attr = some found) : Known registry loaded given found := by
  unfold plainAttribute? at h
  split at h
  case h_4 => exact classAttribute?_known hvalue h
  all_goals exact known_of_some h trivial

theorem definitionAttribute?_known {definition : Definition} {found : Value} {attr : String}
    (hdefinition : Defines registry definition)
    (h : definitionAttribute? registry definition attr = some found) : Known registry loaded given found := by
  have hvalue : Known registry loaded given (.defined definition) := hdefinition
  unfold definitionAttribute? at h
  simp only at h
  split at h
  · exact plainAttribute?_known hvalue h
  · split at h
    · rename_i hinner
      exact known_of_some h (Defines.inner hdefinition hinner)
    · split at h
      · exact known_of_some h hvalue
      · exact plainAttribute?_known hvalue h

theorem compilerAttribute?_known {compiler : Compiler} {found : Value} {attr : String}
    (hcompiler : Known registry loaded given (.built compiler))
    (h : compilerAttribute? registry compiler attr = some found) : Known registry loaded given found := by
  unfold compilerAttribute? at h
  simp only at h
  split at h
  · exact known_of_some h hcompiler
  · exact plainAttribute?_known hcompiler h

theorem moduleAttribute?_known {name attr : String} {found : Value}
    (hloaded : ∀ name, imports.has name = true → loaded name)
    (hmodule : Known registry loaded given (.module name))
    (h : moduleAttribute? registry imports name attr = some found) : Known registry loaded given found := by
  unfold moduleAttribute? at h
  split at h
  · exact classAttribute?_known hmodule h
  · cases hmember : member? registry imports name attr with
    | some member =>
      rw [hmember, Option.some_or] at h
      exact known_of_some h (member?_known hloaded hmember)
    | none =>
      rw [hmember, Option.none_or] at h
      exact classAttribute?_known hmodule h

theorem originMember?_known {moduleName attr : String} {found : Value}
    (h : originMember? registry moduleName attr = some found) : Known registry loaded given found := by
  unfold originMember? at h
  split at h
  case h_6 =>
    refine known_of_some h ?_
    split <;> exact trivial
  case h_10 => simp at h
  all_goals exact known_of_some h trivial

theorem typeField?_known {className field : String} {found : Value}
    (h : typeField? className field = some found) : Known registry loaded given found := by
  unfold typeField? at h
  split at h
  all_goals first
    | exact known_of_some h trivial
    | exact known_of_some h (by split <;> exact trivial)
    | simp at h

theorem fromType_known (className : String) (entry : Entry) :
    Known registry loaded given (fromType className entry) := by
  unfold fromType
  split
  · exact trivial
  · exact trivial
  · split <;> exact trivial

theorem typeAttribute?_known {className attr : String} {found : Value}
    (h : typeAttribute? className attr = some found) : Known registry loaded given found := by
  unfold typeAttribute? at h
  split at h
  · exact typeField?_known h
  · split at h
    · exact known_of_some h (fromType_known _ _)
    · split at h
      · have htype : Known registry loaded given (.type className) := trivial
        exact known_of_some h (bind_known htype _)
      · simp at h

theorem attribute?_known {value found : Value} {attr : String}
    (hloaded : ∀ name, imports.has name = true → loaded name) (hvalue : Known registry loaded given value)
    (h : attribute? registry imports value attr = some found) : Known registry loaded given found := by
  cases value with
  | module name => exact moduleAttribute?_known hloaded hvalue h
  | origin name =>
    cases hclass : classAttribute? registry (.origin name) attr with
    | some entry =>
      rw [attribute?, hclass, Option.some_or] at h
      exact known_of_some h (classAttribute?_known hvalue hclass)
    | none =>
      rw [attribute?, hclass, Option.none_or] at h
      exact originMember?_known h
  | defined definition => exact definitionAttribute?_known hvalue h
  | built compiler => exact compilerAttribute?_known hvalue h
  | type className => exact typeAttribute?_known h
  | _ => exact classAttribute?_known hvalue h

/-- Going to an attribute, a module that lacks it may answer with a compiler. -/
theorem attributeOf_known {value found : Value} {attr : String}
    (hloaded : ∀ name, imports.has name = true → loaded name) (hvalue : Known registry loaded given value)
    (hgiven : ∀ name factory compiler, value = .module name → Lacks registry imports name attr factory →
      (factory.build attr).result = .ok compiler → given attr compiler)
    (h : (attributeOf registry imports value attr).result = .ok found) : Known registry loaded given found := by
  obtain ⟨other, hother, hreport⟩ | ⟨fault, hreport⟩ | ⟨name, factory, rfl, hlacks⟩ :=
    attributeOf_cases registry imports value attr
  · rw [hreport] at h
    obtain rfl := Except.ok.inj h
    exact attribute?_known hloaded hvalue hother
  · simp [hreport, Report.fail] at h
  · rw [attributeOf_of_lacks hlacks] at h
    obtain ⟨compiler, hbuilt, hcompiler⟩ := Report.bind_eq_ok_iff.mp h
    obtain rfl := Except.ok.inj hcompiler
    exact ⟨attr, hgiven name factory compiler rfl hlacks hbuilt⟩

end Attributes

end Import

namespace Reference

open Import

variable {registry : Registry} {reference : String} {imports : Imports}

/-- The path of a reference leads to a module that is loaded, and goes on to an attribute. -/
structure GoesTo (registry : Registry) (reference : String) (imports : Imports) (name attr : String) : Prop where
  path : ∃ front back, Text.pieces '.' (split reference).path = front ++ attr :: back ∧
    follow registry imports (.module (split reference).moduleName) front = .ok (.module name)
  loaded : imports.has name = true

/-- A reference leads through a compiler: its path goes on to an attribute that a module lacks, and the
module answers with that compiler. -/
inductive LeadsThrough (registry : Registry) (reference : String) (imports : Imports) (attr : String)
    (compiler : Compiler) : Prop
  | given {name : String} {factory : Factory}
      (hgoes : GoesTo registry reference (loaded registry reference imports).2 name attr)
      (hlacks : Lacks registry (loaded registry reference imports).2 name attr factory)
      (hbuilt : (factory.build attr).result = .ok compiler)

/-- A path that is followed in two parts. -/
theorem follow_append {front path : List String} {value middle : Import.Value}
    (h : follow registry imports value front = .ok middle) :
    follow registry imports value (front ++ path) = follow registry imports middle path := by
  induction front generalizing value with
  | nil =>
    obtain rfl := Except.ok.inj h
    rfl
  | cons attr front ih =>
    cases hasked : (attributeOf registry imports value attr).result with
    | error why => simp [follow, hasked] at h
    | ok next =>
      simp only [follow, hasked, List.cons_append] at h ⊢
      exact ih h

/-- By induction on what is left of the path: a value on it is known, so that a module which is asked
for the next attribute is loaded. -/
theorem follow_known {front path : List String} {value found : Import.Value}
    (hpath : Text.pieces '.' (split reference).path = front ++ path)
    (hfront : follow registry (loaded registry reference imports).2 (.module (split reference).moduleName) front =
      .ok value)
    (hvalue : Known registry (fun name => (loaded registry reference imports).2.has name = true)
      (LeadsThrough registry reference imports) value)
    (h : follow registry (loaded registry reference imports).2 value path = .ok found) :
    Known registry (fun name => (loaded registry reference imports).2.has name = true)
      (LeadsThrough registry reference imports) found := by
  induction path generalizing front value with
  | nil =>
    obtain rfl := Except.ok.inj h
    exact hvalue
  | cons attr path ih =>
    unfold follow at h
    cases hasked : (attributeOf registry (loaded registry reference imports).2 value attr).result with
    | error why => simp [hasked] at h
    | ok next =>
      rw [hasked] at h
      have hahead : Text.pieces '.' (split reference).path = (front ++ [attr]) ++ path := by simp [hpath]
      refine ih hahead ?_ ?_ h
      · rw [follow_append hfront]
        simp only [follow, hasked]
      · refine attributeOf_known (fun _ => id) hvalue (fun name factory compiler hmodule hlacks hbuilt => ?_) hasked
        subst hmodule
        exact .given ⟨⟨front, path, hpath, hfront⟩, hvalue⟩ hlacks hbuilt

/-- The module of a reference is loaded behind it. -/
theorem loaded_has (h : (loaded registry reference imports).1.result = .ok ()) :
    (loaded registry reference imports).2.has (split reference).moduleName = true :=
  load_has h _ (mem_chain _)

/-- A reference leads to a value that comes from what modules define and from how the modules on its
path answer. -/
theorem resolve_known {value : Import.Value} (h : (resolve registry reference imports).1.result = .ok value) :
    Known registry (fun name => (loaded registry reference imports).2.has name = true)
      (LeadsThrough registry reference imports) value := by
  by_cases hparts : WellFormed reference
  · cases hload : (loaded registry reference imports).1.result with
    | error why =>
      rw [resolve_of_unloaded hparts hload] at h
      simp at h
    | ok done =>
      rw [resolve_of_loaded hparts hload] at h
      cases hled : led registry reference imports with
      | error why =>
        rw [pick_of_not_led hled] at h
        simp at h
      | ok found =>
        rw [pick_of_led hled] at h
        have hmodule : Known registry (fun name => (loaded registry reference imports).2.has name = true)
            (LeadsThrough registry reference imports) (.module (split reference).moduleName) := loaded_has hload
        have hfound := follow_known (List.nil_append _).symm rfl hmodule hled
        split at h
        · obtain rfl := Except.ok.inj h
          exact hfound
        · simp at h
  · rw [resolve_of_malformed hparts] at h
    simp at h

end Reference

end FactIntake
