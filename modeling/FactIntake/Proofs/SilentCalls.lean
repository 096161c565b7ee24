import FactIntake.Proofs.Silence

/-!
Calls in silence. Asking a module for an attribute that it lacks, and calling a value with a label, come to
what they come to otherwise, in silence.
-/

namespace FactIntake

/-- What a factory says when it is asked for this name is not passed over. -/
def Heard (lenient : Bool) (name : String) : Prop := lenient = true → name ≠ childrenPath

variable {lenient : Bool} {registry : Registry} {imports : Imports}

namespace Fault

@[simp] theorem hushed_hushed (fault : Fault) : fault.hushed.hushed = fault.hushed := by
  by_cases himport : fault.isA "ImportError"
  · have hcanonical : fault.hushed = .general "ImportError" [] := if_pos himport
    rw [hcanonical]
    exact ite_self _
  · have hsame : fault.hushed = fault := if_neg himport
    rw [hsame, hsame]

end Fault

namespace Report

theorem told_hushed_twice (report : Report α) :
    (report.told Fault.hushed).told Fault.hushed = report.told Fault.hushed := by
  unfold told
  cases report.result with
  | ok value => rfl
  | error fault => simp

theorem told_bind (tell : Fault → Fault) (report : Report α) (next : α → Report β) :
    (report.bind next).told tell = (report.told tell).bind fun value => (next value).told tell := by
  cases hresult : report.result with
  | error fault =>
    have htold : (report.told tell).result = .error (tell fault) := by rw [told, hresult]; rfl
    rw [bind_of_error hresult, bind_of_error htold]
    rfl
  | ok value =>
    have htold : (report.told tell).result = .ok value := by rw [told, hresult]; rfl
    rw [bind_of_ok hresult, bind_of_ok htold]
    rfl

end Report

namespace Factory

theorem silent_build {label : String} (h : Heard lenient label) (factory : Factory) :
    (factory.silent lenient).build label = (factory.build label).muted Compiler.silent := by
  unfold silent
  cases lenient with
  | false => rfl
  | true =>
    have hlabel : (label == childrenPath) = false := beq_false_of_ne (h rfl)
    simp only [hlabel, Bool.and_false, Bool.false_eq_true, if_false]

/-- Apart from what faults of importing say, it does not matter what the factory is asked for. -/
theorem silent_build_hushed (label : String) (factory : Factory) :
    ((factory.silent lenient).build label).told Fault.hushed =
      ((factory.build label).muted Compiler.silent).told Fault.hushed := by
  unfold silent
  simp only
  split
  · exact Report.told_hushed_twice _
  · rfl

end Factory

namespace Import

theorem muted_built (report : Report Compiler) :
    (report.bind (.succeed <| Value.built ·)).muted (Value.silent lenient) =
      (report.muted Compiler.silent).bind (.succeed <| Value.built ·) := by
  apply Report.muted_bind
  intro compiler
  rfl

theorem ask_silent {attr : String} (h : Heard lenient attr) (hook : Value) :
    ask (hook.silent lenient) attr = (ask hook attr).muted (Value.silent lenient) := by
  cases hook with
  | defined definition =>
    obtain ⟨kind, id, attributes, factory⟩ := definition
    cases factory with
    | none => rfl
    | some factory =>
      have hbuild := factory.silent_build h
      simp only [Value.silent, Definition.silent, Option.map_some, ask, hbuild]
      exact (muted_built (factory.build attr)).symm
  | _ => rfl

theorem ask_hushed (hook : Value) (attr : String) :
    (ask (hook.silent lenient) attr).told Fault.hushed =
      ((ask hook attr).muted (Value.silent lenient)).told Fault.hushed := by
  cases hook with
  | defined definition =>
    obtain ⟨kind, id, attributes, factory⟩ := definition
    cases factory with
    | none => rfl
    | some factory =>
      simp only [Value.silent, Definition.silent, Option.map_some, ask]
      rw [muted_built, Report.told_bind, Report.told_bind, factory.silent_build_hushed attr]
  | _ => rfl

theorem attributeOf_silent {attr : String} (h : Heard lenient attr) (value : Value) :
    attributeOf (registry.silent lenient) imports (value.silent lenient) attr =
      (attributeOf registry imports value attr).muted (Value.silent lenient) := by
  unfold attributeOf
  rw [attribute?_silent, owner_silent]
  cases attribute? registry imports value attr with
  | some found => rfl
  | none =>
    cases value with
    | module name =>
      simp only [Value.silent, Option.map_none, member?_silent]
      cases member? registry imports name "__getattr__" with
      | none => rfl
      | some hook => exact ask_silent h hook
    | _ => rfl

theorem attributeOf_hushed (value : Value) (attr : String) :
    (attributeOf (registry.silent lenient) imports (value.silent lenient) attr).told Fault.hushed =
      ((attributeOf registry imports value attr).muted (Value.silent lenient)).told Fault.hushed := by
  unfold attributeOf
  rw [attribute?_silent, owner_silent]
  cases attribute? registry imports value attr with
  | some found => rfl
  | none =>
    cases value with
    | module name =>
      simp only [Value.silent, Option.map_none, member?_silent]
      cases member? registry imports name "__getattr__" with
      | none => rfl
      | some hook => exact ask_hushed hook attr
    | _ => rfl

theorem muted_givesUnless (fault? : Option Fault) (className : String) :
    (givesUnless fault? className).muted Compiler.silent = givesUnless fault? className := by
  unfold givesUnless
  split <;> rfl

theorem muted_construct (className label : String) :
    (construct className label).muted Compiler.silent = construct className label := by
  unfold construct
  split
  case h_10 => split <;> rfl
  all_goals rfl

theorem muted_encode [Codecs] (text name : String) :
    (encode text name).muted Compiler.silent = encode text name := by
  unfold encode
  split
  · rfl
  · split
    · rfl
    · split
      · rfl
      · split <;> rfl

theorem muted_textAnswer [Codecs] (text name label : String) :
    (textAnswer text name label).muted Compiler.silent = textAnswer text name label := by
  unfold textAnswer
  split
  case h_1 | h_2 => split <;> rfl
  case h_3 => exact muted_encode text label
  all_goals exact muted_givesUnless _ _

theorem muted_operateAlone (operation : Operation) (label : String) :
    (operateAlone operation label).muted Compiler.silent = operateAlone operation label := by
  unfold operateAlone
  split
  · unfold alone
    split
    · rfl
    · exact muted_givesUnless _ _
    · split <;> rfl
  · split
    · unfold misplacedRoutine
      split <;> rfl
    · rfl
    · rfl

theorem muted_rebound (operation : Operation) :
    (rebound operation).muted Compiler.silent = rebound operation := by
  unfold rebound
  split <;> rfl

theorem lay_silent (value : Value) (layout : String) :
    lay (value.silent lenient) layout = (lay value layout).muted Compiler.silent := by
  unfold lay
  rw [Value.silent_className]
  split
  · exact (muted_givesUnless _ _).symm
  · rfl

theorem fixedField_silent (value : Value) (field : String) :
    fixedField (value.silent lenient) field = (fixedField value field).muted Compiler.silent := by
  by_cases hclass : field = "__class__"
  · subst hclass
    simp only [fixedField]
    rfl
  cases value with
  | defined definition =>
    simp only [fixedField, Value.silent, Value.className, Definition.silent_kind]
    rfl
  | built compiler =>
    simp only [fixedField, Value.silent]
    rfl
  | bound | origin | type | catalogue =>
    simp only [fixedField, Value.silent]
    rfl
  | _ =>
    unfold fixedField
    simp only [Value.silent]
    split <;> rfl

/-- Only a module has attributes that can be removed. -/
theorem remove_of_other {value : Value} (h : ∀ name, value ≠ .module name) (attr : String) :
    remove registry imports value attr = match inherited? value.className attr with
      | some (.field field) => fixedField value field
      | some (.operation _) => refusesAttribute
          ("'" ++ value.className ++ "' object attribute " ++ Text.quoted attr ++ " is read-only")
      | none => refusesAttribute
          ("'" ++ value.className ++ "' object has no attribute " ++ Text.quoted attr) := by
  unfold remove
  generalize inherited? value.className attr = entry
  cases value with
  | module name => exact absurd rfl (h name)
  | _ => rcases entry with _ | (operation | field) <;> rfl

theorem remove_silent (value : Value) (attr : String) :
    remove (registry.silent lenient) imports (value.silent lenient) attr =
      (remove registry imports value attr).muted Compiler.silent := by
  have hfield : ∀ field, fixedField (value.silent lenient) field =
      (fixedField value field).muted Compiler.silent := fixedField_silent value
  by_cases hmodule : ∃ name, value = .module name
  · obtain ⟨name, rfl⟩ := hmodule
    simp only [Value.silent] at hfield
    simp only [remove, Value.silent, member?_silent, Option.isSome_map]
    split
    · exact hfield attr
    · split
      · rfl
      · split
        · exact hfield attr
        · rfl
  · have hother : ∀ name, value ≠ .module name := not_exists.mp hmodule
    have hsilent : ∀ name, value.silent lenient ≠ .module name := by
      intro name hname
      cases value with
      | module given => exact hother given rfl
      | _ => simp [Value.silent] at hname
    rw [remove_of_other hother, remove_of_other hsilent, Value.silent_className]
    cases inherited? value.className attr with
    | none => rfl
    | some entry =>
      cases entry with
      | operation operation => rfl
      | field field => exact hfield field

theorem nothingWanted_silent (receiver : Value) (operation : Operation) :
    nothingWanted (receiver.silent lenient) operation =
      (nothingWanted receiver operation).muted Compiler.silent := by
  have hname : calledName (receiver.silent lenient) operation = calledName receiver operation := by
    cases receiver with
    | defined definition => simp only [calledName, Value.silent, Value.className, Definition.silent_kind]
    | _ => rfl
  unfold nothingWanted
  rw [hname]
  split <;> rfl

theorem mapped?_silent (mapping : Value) (key : String) :
    mapped? (registry.silent lenient) imports (mapping.silent lenient) key =
      (mapped? registry imports mapping key).map (Value.silent lenient) := by
  cases mapping with
  | members name => exact member?_silent name key
  | catalogue className =>
    simp only [mapped?, Value.silent]
    split
    · exact (typeField?_silent className key).symm
    · rw [Option.map_map]
      apply Option.map_congr
      intro entry _
      cases entry with
      | operation operation => rfl
      | field field => exact (fromType_silent className (.field field)).symm
  | _ => rfl

theorem asCompiler_silent (value : Value) :
    asCompiler (registry.silent lenient) imports (value.silent lenient) =
      (asCompiler registry imports value).muted Compiler.silent := by
  have howner : owner (registry.silent lenient) imports (value.silent lenient) =
      owner registry imports value := owner_silent value
  cases value with
  | built compiler => rfl
  | _ =>
    simp only [Value.silent] at howner
    simp only [asCompiler, Value.silent, howner]
    rfl

theorem alter_silent (mapping : Value) (key : String) (remnant : Remnant) :
    alter (mapping.silent lenient) key remnant = (alter mapping key remnant).muted id := by
  cases mapping <;> rfl

theorem mappingAnswer_silent (mapping : Value) (name key : String) :
    mappingAnswer (registry.silent lenient) imports (mapping.silent lenient) name key =
      (mappingAnswer registry imports mapping name key).muted Compiler.silent := by
  have halter : ∀ remnant {report other : Report Compiler}, other = report.muted Compiler.silent →
      ((alter (mapping.silent lenient) key remnant).bind fun _ => other) =
        ((alter mapping key remnant).bind fun _ => report).muted Compiler.silent := by
    intro remnant report other hother
    rw [alter_silent]
    exact (Report.muted_bind fun _ => hother).symm
  by_cases hpop : name = "pop"
  · subst hpop
    simp only [mappingAnswer, mapped?_silent]
    cases mapped? registry imports mapping key with
    | some value => exact halter .missing (asCompiler_silent value)
    | none => rfl
  by_cases hdelete : name = "__delitem__"
  · subst hdelete
    simp only [mappingAnswer, mapped?_silent]
    cases mapped? registry imports mapping key with
    | some value => exact halter .missing rfl
    | none => rfl
  by_cases hdefault : name = "setdefault"
  · subst hdefault
    simp only [mappingAnswer, mapped?_silent]
    cases mapped? registry imports mapping key with
    | some value => exact asCompiler_silent value
    | none => exact halter .nothing rfl
  simp only [mappingAnswer, mapped?_silent]
  cases mapped? registry imports mapping key with
  | some value =>
    simp only [Option.map_some]
    exact asCompiler_silent value
  | none =>
    simp only [Option.map_none]
    split <;> first | rfl | contradiction

theorem viewAnswer_silent (mapping : Value) (name key : String) :
    viewAnswer (registry.silent lenient) imports (mapping.silent lenient) name key =
      (viewAnswer registry imports mapping name key).muted Compiler.silent := by
  unfold viewAnswer
  split
  · rfl
  · split
    · rfl
    · split
      · rfl
      · exact mappingAnswer_silent mapping name key

theorem muted_renameModule (moduleName label : String) :
    (renameModule moduleName label).muted Compiler.silent = renameModule moduleName label := rfl

/-- Operations that have an answer of their own whatever the value. -/
def commonOperations : List String :=
  ["__getattribute__", "__delattr__", "__format__", "__new__", "__class_getitem__"]

/-- An operation with an answer of its own is one of mappings unless it is known for another value. -/
structure OfMapping (receiver : Value) (operation : Operation) : Prop where
  common : operation.name ∉ commonOperations
  module : ∀ name, receiver = .module name → operation.name ≠ "__init__"
  unbound : ∀ inner, receiver = .unbound inner → operation.name ≠ "__get__"
  built : ∀ compiler, receiver = .built compiler → operation.name ≠ "compile"
  list : receiver = .sample "list" → operation.name ≠ "index"
  text : ∀ text, receiver ≠ .text text
  catalogue : ∀ className, receiver ≠ .catalogue className

theorem OfMapping.silent {receiver : Value} {operation : Operation} (h : OfMapping receiver operation) :
    OfMapping (receiver.silent lenient) operation := by
  cases receiver with
  | built compiler =>
    refine ⟨h.common, by simp [Value.silent], by simp [Value.silent], ?_, by simp [Value.silent],
      by simp [Value.silent], by simp [Value.silent]⟩
    intro other hother
    exact h.built compiler rfl
  | defined | bound =>
    refine ⟨h.common, ?_, ?_, ?_, ?_, ?_, ?_⟩ <;> simp [Value.silent]
  | _ => exact h

theorem ownAnswer_of_mapping [Codecs] {receiver : Value} {operation : Operation}
    (h : OfMapping receiver operation) (label : String) :
    ownAnswer registry imports receiver operation label =
      mappingAnswer registry imports receiver operation.name label := by
  obtain ⟨hcommon, hmodule, hunbound, hbuilt, hlist, htext, hcatalogue⟩ := h
  simp only [commonOperations, List.mem_cons, List.not_mem_nil, or_false, not_or] at hcommon
  obtain ⟨hget, hdelete, hformat, hnew, hitem⟩ := hcommon
  unfold ownAnswer
  split
  · exact absurd ‹_› hget
  · exact absurd ‹_› hdelete
  · exact absurd ‹_› hformat
  · exact absurd ‹_› hnew
  · exact absurd ‹_› hitem
  · exact absurd ‹_› (hmodule _ rfl)
  · exact absurd ‹_› (hunbound _ rfl)
  · exact absurd ‹_› (hbuilt _ rfl)
  · exact absurd ‹_› (hlist rfl)
  · exact absurd rfl (htext _)
  · exact absurd rfl (hcatalogue _)
  · rfl

theorem ownAnswer_of_text [Codecs] {operation : Operation} (h : operation.name ∉ commonOperations)
    (text label : String) : ownAnswer registry imports (.text text) operation label =
      textAnswer text operation.name label := by
  simp only [commonOperations, List.mem_cons, List.not_mem_nil, or_false, not_or] at h
  unfold ownAnswer
  split <;> simp_all

theorem ownAnswer_of_catalogue [Codecs] {operation : Operation} (h : operation.name ∉ commonOperations)
    (className label : String) : ownAnswer registry imports (.catalogue className) operation label =
      viewAnswer registry imports (.catalogue className) operation.name label := by
  simp only [commonOperations, List.mem_cons, List.not_mem_nil, or_false, not_or] at h
  unfold ownAnswer
  split <;> simp_all

theorem ownAnswer_of_mapping_silent [Codecs] {receiver : Value} {operation : Operation}
    (h : OfMapping receiver operation) (label : String) :
    ownAnswer (registry.silent lenient) imports (receiver.silent lenient) operation label =
      (ownAnswer registry imports receiver operation label).muted Compiler.silent := by
  rw [ownAnswer_of_mapping h, ownAnswer_of_mapping h.silent]
  exact mappingAnswer_silent receiver operation.name label

theorem ownAnswer_silent [Codecs] {label : String} (h : Heard lenient label) (receiver : Value)
    (operation : Operation) :
    ownAnswer (registry.silent lenient) imports (receiver.silent lenient) operation label =
      (ownAnswer registry imports receiver operation label).muted Compiler.silent := by
  obtain ⟨owner, name, form, need⟩ := operation
  by_cases hcommon : name ∈ commonOperations
  · simp only [commonOperations, List.mem_cons, List.not_mem_nil, or_false] at hcommon
    rcases hcommon with rfl | rfl | rfl | rfl | rfl
    · simp only [ownAnswer]
      rw [attributeOf_silent h]
      symm
      apply Report.muted_bind
      intro value
      exact asCompiler_silent value
    · exact remove_silent receiver label
    · exact lay_silent receiver label
    · simp only [ownAnswer]
      rfl
    · simp only [ownAnswer]
      rfl
  cases receiver with
  | text value =>
    rw [Value.silent, ownAnswer_of_text hcommon, ownAnswer_of_text hcommon]
    exact (muted_textAnswer value name label).symm
  | catalogue className =>
    rw [Value.silent, ownAnswer_of_catalogue hcommon, ownAnswer_of_catalogue hcommon]
    exact viewAnswer_silent (.catalogue className) name label
  | module moduleName =>
    by_cases hinit : name = "__init__"
    · subst hinit
      exact (muted_renameModule moduleName label).symm
    · apply ownAnswer_of_mapping_silent
      refine ⟨hcommon, ?_, ?_, ?_, ?_, ?_, ?_⟩ <;> simp [hinit]
  | unbound inner =>
    by_cases hbound : name = "__get__"
    · subst hbound
      exact (muted_rebound inner).symm
    · apply ownAnswer_of_mapping_silent
      refine ⟨hcommon, ?_, ?_, ?_, ?_, ?_, ?_⟩ <;> simp [hbound]
  | built compiler =>
    by_cases hcompile : name = "compile"
    · subst hcompile
      simp only [ownAnswer, Value.silent]
      symm
      apply Report.muted_bind
      intro model
      rfl
    · apply ownAnswer_of_mapping_silent
      refine ⟨hcommon, ?_, ?_, ?_, ?_, ?_, ?_⟩ <;> simp [hcompile]
  | sample className =>
    by_cases hindex : className = "list" ∧ name = "index"
    · obtain ⟨rfl, rfl⟩ := hindex
      rfl
    · apply ownAnswer_of_mapping_silent
      refine ⟨hcommon, by simp, by simp, by simp, ?_, by simp, by simp⟩
      intro hlist hname
      exact hindex ⟨Value.sample.inj hlist, hname⟩
  | members | origin | defined | type | bound =>
    apply ownAnswer_of_mapping_silent
    refine ⟨hcommon, ?_, ?_, ?_, ?_, ?_, ?_⟩ <;> simp

theorem operate_silent [Codecs] {label : String} (h : Heard lenient label) (receiver : Value)
    (operation : Operation) :
    operate (registry.silent lenient) imports (receiver.silent lenient) operation label =
      (operate registry imports receiver operation label).muted Compiler.silent := by
  unfold operate
  split
  · exact nothingWanted_silent receiver operation
  · rfl
  · rfl
  · rfl
  · rfl
  · exact ownAnswer_silent h receiver operation

/-- A value that is called in silence comes to what it comes to otherwise. -/
theorem apply_silent [Codecs] {label : String} (h : Heard lenient label) (value : Value) :
    apply (registry.silent lenient) imports (value.silent lenient) label =
      (apply registry imports value label).muted Compiler.silent := by
  induction value with
  | defined definition =>
    simp only [apply, Value.silent, Definition.silent_factory, Definition.silent_kind]
    cases definition.factory with
    | none => rfl
    | some factory => exact factory.silent_build h
  | type className => exact (muted_construct className label).symm
  | unbound operation => exact (muted_operateAlone operation label).symm
  | bound receiver operation ih =>
    simp only [apply, Value.silent]
    split
    · exact ih
    · exact operate_silent h receiver operation
  | _ => rfl

/-- A value in the place of a factory has the same made of a text. -/
theorem run_silent [Codecs] {label : String} (h : Heard lenient label) (value : Value) (text : String) :
    (factoryOf (registry.silent lenient) (value.silent lenient) imports).run label text =
      ((factoryOf registry value imports).run label text).muted id := by
  have happly : apply (registry.silent lenient) imports (value.silent lenient) label =
      (apply registry imports value label).muted Compiler.silent := apply_silent h value
  unfold factoryOf Factory.run
  simp only [Report.bind_eq, happly]
  symm
  apply Report.muted_bind
  intro compiler
  rfl

end Import

end FactIntake
