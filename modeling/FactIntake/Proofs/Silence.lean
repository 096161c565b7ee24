import FactIntake.Import.Operation
import FactIntake.Proofs.Results

/-!
Modules in silence. What compilers log is left out, and so is what a module says of why it cannot be
imported. Whatever is looked up or called in silence is what it is otherwise, in silence: no name, no class,
no attribute and no call depends on what was left out.
-/

namespace FactIntake

/-- A report without its events, and its value as it is seen. -/
def Report.muted (view : α → β) (report : Report α) : Report β :=
  ⟨report.result.map view, report.calls, [], report.changes⟩

/-- A fault of importing without what it says. -/
def Fault.hushed (fault : Fault) : Fault :=
  if fault.isA "ImportError" then .general "ImportError" [] else fault

/-- A report without its events, and its fault as it is told. -/
def Report.told (tell : Fault → Fault) (report : Report α) : Report α :=
  ⟨report.result.mapError tell, report.calls, [], report.changes⟩

/-- What a factory is asked for before the children of a module are imported. If `lenient`, it need not
say in silence why they cannot be. -/
def childrenPath : String := "__path__"

def Compiler.silent (compiler : Compiler) : Compiler :=
  ⟨fun text => (compiler.compile text).muted id⟩

def Factory.silent (lenient : Bool) (factory : Factory) : Factory :=
  ⟨fun label =>
    let report := (factory.build label).muted Compiler.silent
    if lenient && label == childrenPath then report.told Fault.hushed else report⟩

mutual

def Definition.silent (lenient : Bool) : Definition → Definition
  | ⟨kind, id, attributes, factory⟩ =>
    ⟨kind, id, Definition.silentAll lenient attributes, factory.map (Factory.silent lenient)⟩

def Definition.silentAll (lenient : Bool) : List (String × Definition) → List (String × Definition)
  | [] => []
  | (name, definition) :: rest =>
    (name, definition.silent lenient) :: Definition.silentAll lenient rest

end

def Loading.silent (loading : Loading) : Loading :=
  ⟨loading.calls, loading.outcome.result.mapError Fault.hushed, []⟩

def Module.silent (lenient : Bool) (found : Module) : Module :=
  ⟨found.isPackage, Definition.silentAll lenient found.attributes, found.loading.silent⟩

def Registry.silent (lenient : Bool) (registry : Registry) : Registry :=
  fun name => (registry name).map (Module.silent lenient)

def Import.Value.silent (lenient : Bool) : Import.Value → Import.Value
  | .module name => .module name
  | .members name => .members name
  | .origin name => .origin name
  | .defined definition => .defined (definition.silent lenient)
  | .built compiler => .built compiler.silent
  | .text value => .text value
  | .sample className => .sample className
  | .type className => .type className
  | .catalogue className => .catalogue className
  | .bound receiver operation => .bound (receiver.silent lenient) operation
  | .unbound operation => .unbound operation

variable {lenient : Bool} {registry : Registry} {imports : Imports}

theorem Report.muted_bind {report : Report α} {view : α → γ} {lens : β → δ} {next : α → Report β}
    {other : γ → Report δ} (h : ∀ value, other (view value) = (next value).muted lens) :
    (report.bind next).muted lens = (report.muted view).bind other := by
  cases hresult : report.result with
  | error fault =>
    have hmuted : (report.muted view).result = .error fault := by rw [Report.muted, hresult]; rfl
    rw [Report.bind_of_error hresult, Report.bind_of_error hmuted]
    rfl
  | ok value =>
    have hmuted : (report.muted view).result = .ok (view value) := by rw [Report.muted, hresult]; rfl
    rw [Report.bind_of_ok hresult, Report.bind_of_ok hmuted, h]
    rfl

@[simp] theorem Definition.silent_kind (definition : Definition) :
    (definition.silent lenient).kind = definition.kind := by
  cases definition
  rfl

@[simp] theorem Definition.silent_attributes (definition : Definition) :
    (definition.silent lenient).attributes = Definition.silentAll lenient definition.attributes := by
  cases definition
  rfl

@[simp] theorem Definition.silent_factory (definition : Definition) :
    (definition.silent lenient).factory = definition.factory.map (Factory.silent lenient) := by
  cases definition
  rfl

@[simp] theorem Definition.lookup_silentAll (attributes : List (String × Definition)) (attr : String) :
    (Definition.silentAll lenient attributes).lookup attr =
      (attributes.lookup attr).map (Definition.silent lenient) := by
  induction attributes with
  | nil => rfl
  | cons entry rest ih =>
    obtain ⟨name, definition⟩ := entry
    simp only [Definition.silentAll, List.lookup_cons, ih]
    split <;> rfl

namespace Import

@[simp] theorem Value.silent_className (value : Value) :
    (value.silent lenient).className = value.className := by
  cases value with
  | defined definition => exact definition.silent_kind
  | _ => rfl

@[simp] theorem isPackage_silent (name : String) :
    isPackage (registry.silent lenient) name = isPackage registry name := by
  unfold isPackage Registry.silent
  cases registry name <;> rfl

theorem givenMember?_silent (name attr : String) :
    givenMember? (registry.silent lenient) name attr =
      (givenMember? registry name attr).map (Value.silent lenient) := by
  unfold givenMember?
  simp only [isPackage_silent]
  split
  case h_6 => split <;> rfl
  all_goals rfl

theorem member?_silent (name attr : String) :
    member? (registry.silent lenient) imports name attr =
      (member? registry imports name attr).map (Value.silent lenient) := by
  unfold member?
  have hdefined : ((registry.silent lenient) name).bind (fun found => found.attributes.lookup attr) =
      ((registry name).bind fun found => found.attributes.lookup attr).map
        (Definition.silent lenient) := by
    unfold Registry.silent
    cases registry name with
    | none => rfl
    | some found => exact Definition.lookup_silentAll found.attributes attr
  rw [hdefined]
  split
  · rfl
  · rfl
  · rfl
  · simp only
    split
    · rfl
    · cases (registry name).bind fun found => found.attributes.lookup attr with
      | some definition => rfl
      | none => exact givenMember?_silent name attr

theorem operationField_silent (receiver : Option Value) (operation : Operation) (field : String) :
    operationField (receiver.map (Value.silent lenient)) operation field =
      (operationField receiver operation field).silent lenient := by
  unfold operationField
  split
  case h_4 => cases receiver <;> rfl
  all_goals rfl

theorem originField_silent (moduleName field : String) :
    originField (registry.silent lenient) moduleName field =
      (originField registry moduleName field).silent lenient := by
  unfold originField
  simp only [isPackage_silent]
  split <;> rfl

theorem fieldOf_silent (value : Value) (field : String) :
    fieldOf (registry.silent lenient) (value.silent lenient) field =
      (fieldOf registry value field).silent lenient := by
  by_cases hclass : field = "__class__"
  · subst hclass
    simp only [fieldOf, Value.silent_className]
    rfl
  by_cases hdoc : field = "__doc__"
  · subst hdoc
    simp only [fieldOf, Value.silent_className]
    split <;> rfl
  cases value with
  | module name =>
    simp only [fieldOf, Value.silent]
    split <;> rfl
  | origin name =>
    simp only [fieldOf, Value.silent]
    exact originField_silent name field
  | bound receiver operation =>
    simp only [fieldOf, Value.silent]
    exact operationField_silent (some receiver) operation field
  | unbound operation =>
    simp only [fieldOf, Value.silent]
    exact operationField_silent none operation field
  | _ =>
    unfold fieldOf
    simp only [Value.silent]
    split
    all_goals first
      | rfl
      | contradiction
      | (split <;> first | rfl | contradiction)

theorem bind_silent (value : Value) (operation : Operation) :
    bind (value.silent lenient) operation = (bind value operation).silent lenient := by
  unfold bind
  simp only [Value.silent_className]
  split <;> rfl

theorem classAttribute?_silent (value : Value) (attr : String) :
    classAttribute? (registry.silent lenient) (value.silent lenient) attr =
      (classAttribute? registry value attr).map (Value.silent lenient) := by
  unfold classAttribute?
  rw [Value.silent_className, Option.map_map]
  apply Option.map_congr
  intro entry _
  cases entry with
  | operation operation => exact bind_silent value operation
  | field field => exact fieldOf_silent value field

theorem plainAttribute?_silent (value : Value) (attr : String) :
    plainAttribute? (registry.silent lenient) (value.silent lenient) attr =
      (plainAttribute? registry value attr).map (Value.silent lenient) := by
  unfold plainAttribute?
  split
  case h_4 => exact classAttribute?_silent value attr
  all_goals rfl

theorem definitionOperation?_silent (definition : Definition) (attr : String) :
    definitionOperation? (definition.silent lenient) attr = definitionOperation? definition attr := by
  unfold definitionOperation?
  simp only [Definition.silent_kind, Definition.silent_factory, Option.map_map]
  rfl

theorem definitionAttribute?_silent (definition : Definition) (attr : String) :
    definitionAttribute? (registry.silent lenient) (definition.silent lenient) attr =
      (definitionAttribute? registry definition attr).map (Value.silent lenient) := by
  have hplain : plainAttribute? (registry.silent lenient) (.defined (definition.silent lenient)) attr =
      (plainAttribute? registry (.defined definition) attr).map (Value.silent lenient) :=
    plainAttribute?_silent (.defined definition) attr
  unfold definitionAttribute?
  simp only [Definition.silent_attributes, Definition.lookup_silentAll, definitionOperation?_silent]
  split
  · exact hplain
  · cases definition.attributes.lookup attr with
    | some inner => rfl
    | none =>
      cases definitionOperation? definition attr with
      | some operation => rfl
      | none => exact hplain

theorem compilerAttribute?_silent (compiler : Compiler) (attr : String) :
    compilerAttribute? (registry.silent lenient) compiler.silent attr =
      (compilerAttribute? registry compiler attr).map (Value.silent lenient) := by
  unfold compilerAttribute?
  simp only
  split
  · rfl
  · exact plainAttribute?_silent (.built compiler) attr

theorem moduleAttribute?_silent (name attr : String) :
    moduleAttribute? (registry.silent lenient) imports name attr =
      (moduleAttribute? registry imports name attr).map (Value.silent lenient) := by
  have hclass : classAttribute? (registry.silent lenient) (.module name) attr =
      (classAttribute? registry (.module name) attr).map (Value.silent lenient) :=
    classAttribute?_silent (.module name) attr
  unfold moduleAttribute?
  rw [hclass, member?_silent]
  split
  · rfl
  · cases member? registry imports name attr <;> rfl

theorem originMember?_silent (moduleName attr : String) :
    originMember? (registry.silent lenient) moduleName attr =
      (originMember? registry moduleName attr).map (Value.silent lenient) := by
  unfold originMember?
  simp only [isPackage_silent]
  split
  case h_6 => split <;> rfl
  all_goals rfl

theorem typeField?_silent (className field : String) :
    (typeField? className field).map (Value.silent lenient) = typeField? className field := by
  unfold typeField?
  split
  all_goals first
    | rfl
    | (split <;> rfl)

theorem fromType_silent (className : String) (entry : Entry) :
    (fromType className entry).silent lenient = fromType className entry := by
  unfold fromType
  split
  · rfl
  · rfl
  · split <;> rfl

theorem typeAttribute?_silent (className attr : String) :
    (typeAttribute? className attr).map (Value.silent lenient) = typeAttribute? className attr := by
  unfold typeAttribute?
  split
  · exact typeField?_silent className attr
  · split
    · exact congrArg some (fromType_silent _ _)
    · split
      · exact congrArg some (bind_silent (.type className) _).symm
      · rfl

theorem attribute?_silent (value : Value) (attr : String) :
    attribute? (registry.silent lenient) imports (value.silent lenient) attr =
      (attribute? registry imports value attr).map (Value.silent lenient) := by
  cases value with
  | module name => exact moduleAttribute?_silent name attr
  | origin name =>
    have hclass : classAttribute? (registry.silent lenient) (.origin name) attr =
        (classAttribute? registry (.origin name) attr).map (Value.silent lenient) :=
      classAttribute?_silent (.origin name) attr
    simp only [attribute?, Value.silent, hclass, originMember?_silent]
    cases classAttribute? registry (.origin name) attr <;> rfl
  | defined definition => exact definitionAttribute?_silent definition attr
  | built compiler => exact compilerAttribute?_silent compiler attr
  | type className => exact (typeAttribute?_silent className attr).symm
  | members name => exact classAttribute?_silent (.members name) attr
  | text value => exact classAttribute?_silent (.text value) attr
  | sample className => exact classAttribute?_silent (.sample className) attr
  | catalogue className => exact classAttribute?_silent (.catalogue className) attr
  | bound receiver operation => exact classAttribute?_silent (.bound receiver operation) attr
  | unbound operation => exact classAttribute?_silent (.unbound operation) attr

theorem owner_silent (value : Value) :
    owner (registry.silent lenient) imports (value.silent lenient) = owner registry imports value := by
  cases value with
  | module name =>
    simp only [owner, Value.silent, member?_silent]
    cases member? registry imports name "__name__" with
    | none => rfl
    | some found => cases found <;> rfl
  | defined definition => simp only [owner, Value.silent, Value.className, Definition.silent_kind]
  | _ => rfl

theorem isCallable_silent (value : Value) : isCallable (value.silent lenient) = isCallable value := by
  cases value with
  | defined definition => simp [isCallable, Value.silent]
  | _ => rfl

end Import

end FactIntake
