import FactIntake.Proofs.Lookup

/-!
Calling what a reference leads to. A value that is called with a label refuses, or builds a compiler for
that label; nothing else is called, whatever is imported and whichever attributes are changed by then. Only
a module that answers for the attributes it lacks can lead further: to a compiler that it gave on the way,
which then compiles what it is given.
-/

namespace FactIntake

/-- A factory of which each call is on record, or a value that stands in the place of one. -/
inductive Factory.OnRecord : Factory → Prop
  | recorded (build : String → Outcome (String → Outcome Model)) : OnRecord (.recorded build)
  | notCallable (typeName : String) : OnRecord (.notCallable typeName)

/-- A report of nothing but a fault. -/
structure Report.Refuses (report : Report α) : Prop where
  calls : report.calls = []
  result : ∃ fault, report.result = .error fault

theorem Report.refuses_fail (fault : Fault) : (Report.fail fault : Report α).Refuses :=
  ⟨rfl, fault, rfl⟩

theorem Report.Refuses.bind {report : Report α} {next : α → Report β} (hcalls : report.calls = [])
    (hnext : ∀ value, (next value).Refuses) : (report.bind next).Refuses := by
  cases hresult : report.result with
  | error fault =>
    rw [Report.bind_of_error hresult]
    exact ⟨hcalls, fault, rfl⟩
  | ok value =>
    rw [Report.bind_of_ok hresult]
    refine ⟨?_, (hnext value).result⟩
    simp only [hcalls, (hnext value).calls, List.append_nil]

namespace Import

variable {registry : Registry} {imports : Imports} {given : String → Compiler → Prop}

/-- Whatever modules define in the place of a factory is on record. -/
def OnRecord (registry : Registry) : Prop :=
  ∀ definition factory, Defines registry definition → definition.factory = some factory →
    factory.OnRecord

/-- A module that lacks an attribute answered with this compiler. -/
def GivenFor (registry : Registry) (attr : String) (compiler : Compiler) : Prop :=
  ∃ factory, IsHook registry factory ∧ (factory.build attr).result = .ok compiler

theorem onRecord_of_isHook {factory : Factory} (h : OnRecord registry)
    (hhook : IsHook registry factory) : factory.OnRecord := by
  obtain ⟨name, found, definition, hfound, hmember, hfactory⟩ := hhook
  exact h definition factory (.member hfound hmember) hfactory

/-- What calling a value with a label comes to: it refuses, builds a compiler for the label, or has to do
with a compiler that was given for an attribute before, which it gives again or has compile the label. -/
inductive Serves (given : String → Compiler → Prop) (label : String) (report : Report Compiler) : Prop
  | refused (h : report.Refuses)
  | built (hcalls : report.calls = [.build label])
      (hcompile : ∀ compiler, report.result = .ok compiler →
        ∀ text, (compiler.compile text).calls = [.compile label text])
  | again {attr : String} {compiler : Compiler} (hgiven : given attr compiler)
      (hcalls : report.calls = []) (hresult : report.result = .ok compiler)
  | used {attr : String} {compiler : Compiler} {fault : Fault}
      (hgiven : given attr compiler) (hcalls : report.calls = [.compile attr label])
      (hresult : report.result = .error fault)

theorem serves_fail (label : String) (fault : Fault) : Serves given label (.fail fault) :=
  .refused (Report.refuses_fail fault)

end Import

namespace Factory

variable {factory : Factory} {label : String}

theorem recorded_build_calls (build : String → Outcome (String → Outcome Model)) (label : String) :
    ((Factory.recorded build).build label).calls = [.build label] := by
  unfold recorded
  cases hresult : (Report.call (.build label) (build label)).result with
  | error fault =>
    simp only [Report.bind_of_error hresult]
    rfl
  | ok compile =>
    simp only [Report.bind_of_ok hresult]
    rfl

theorem OnRecord.compile_calls {compiler : Compiler} (h : factory.OnRecord)
    (hbuilt : (factory.build label).result = .ok compiler) (text : String) :
    (compiler.compile text).calls = [.compile label text] := by
  cases h with
  | recorded build =>
    obtain ⟨compile, -, hcompiler⟩ := Report.bind_eq_ok_iff.mp hbuilt
    obtain rfl := Except.ok.inj hcompiler
    rfl
  | notCallable typeName => simp [Factory.notCallable, Report.fail] at hbuilt

theorem OnRecord.serves (h : factory.OnRecord) (given : String → Compiler → Prop) (label : String) :
    Import.Serves given label (factory.build label) := by
  cases h with
  | recorded build =>
    refine .built (recorded_build_calls build label) fun compiler hcompiler => ?_
    exact (OnRecord.recorded build).compile_calls hcompiler
  | notCallable typeName => exact Import.serves_fail label _

end Factory

namespace Import

variable {registry : Registry} {imports : Imports} {given : String → Compiler → Prop}

theorem GivenFor.compile_calls {attr : String} {compiler : Compiler}
    (h : GivenFor registry attr compiler) (hrecord : OnRecord registry) (text : String) :
    (compiler.compile text).calls = [.compile attr text] := by
  obtain ⟨factory, hhook, hbuilt⟩ := h
  exact (onRecord_of_isHook hrecord hhook).compile_calls hbuilt text

theorem refuses_givesUnless (fault? : Option Fault) (className : String) :
    (givesUnless fault? className : Report Compiler).Refuses := by
  unfold givesUnless
  split <;> exact Report.refuses_fail _

theorem refuses_construct (className label : String) : (construct className label).Refuses := by
  unfold construct
  split
  case h_10 => split <;> exact Report.refuses_fail _
  all_goals exact Report.refuses_fail _

theorem refuses_encode [Codecs] (text name : String) : (encode text name).Refuses := by
  unfold encode
  split
  · exact Report.refuses_fail _
  · split
    · exact Report.refuses_fail _
    · split
      · exact Report.refuses_fail _
      · split <;> exact Report.refuses_fail _

theorem refuses_textAnswer [Codecs] (text name label : String) : (textAnswer text name label).Refuses := by
  unfold textAnswer
  split
  case h_3 => exact refuses_encode text label
  case h_1 => split <;> exact Report.refuses_fail _
  case h_2 => split <;> exact Report.refuses_fail _
  all_goals exact refuses_givesUnless _ _

theorem refuses_lay (value : Value) (layout : String) : (lay value layout).Refuses := by
  unfold lay
  split
  · exact refuses_givesUnless _ _
  · exact Report.refuses_fail _

theorem refuses_fixedField (value : Value) (field : String) : (fixedField value field).Refuses := by
  unfold fixedField
  split <;> exact Report.refuses_fail _

theorem refuses_remove (value : Value) (attr : String) :
    (remove registry imports value attr).Refuses := by
  unfold remove
  simp only
  split
  · split
    · exact refuses_fixedField _ _
    · split
      · exact Report.Refuses.bind rfl fun _ => Report.refuses_fail _
      · split
        · exact refuses_fixedField _ _
        · exact Report.refuses_fail _
  · exact refuses_fixedField _ _
  · exact Report.refuses_fail _
  · exact Report.refuses_fail _

theorem refuses_renameModule (moduleName label : String) : (renameModule moduleName label).Refuses :=
  ⟨rfl, _, rfl⟩

theorem refuses_rebound (operation : Operation) : (rebound operation).Refuses := by
  unfold rebound
  split <;> exact Report.refuses_fail _

theorem refuses_operateAlone (operation : Operation) (label : String) :
    (operateAlone operation label).Refuses := by
  unfold operateAlone
  split
  · unfold alone
    split
    · exact Report.refuses_fail _
    · exact refuses_givesUnless _ _
    · split <;> exact Report.refuses_fail _
  · split
    · unfold misplacedRoutine
      split <;> exact Report.refuses_fail _
    · exact Report.refuses_fail _
    · exact Report.refuses_fail _

theorem mapped?_known {mapping value : Value} {key : String}
    (h : mapped? registry imports mapping key = some value) : Stems registry given value := by
  unfold mapped? at h
  split at h
  · exact member?_known (fun _ _ => trivial) h
  · split at h
    · exact typeField?_known h
    · obtain ⟨entry, -, rfl⟩ := Option.map_eq_some_iff.mp h
      cases entry with
      | operation operation => exact trivial
      | field field => exact fromType_known _ _
  · simp at h

/-- A value in the place of a compiler is refused, or is a compiler that a module gave. -/
theorem asCompiler_serves {value : Value} (hvalue : Stems registry given value) (label : String) :
    Serves given label (asCompiler registry imports value) := by
  unfold asCompiler
  split
  · obtain ⟨attr, hgiven⟩ := hvalue
    exact .again hgiven rfl rfl
  · exact serves_fail label _

/-- Only the calls and the result count. -/
theorem Serves.congr {label : String} {report other : Report Compiler} (h : Serves given label report)
    (hcalls : other.calls = report.calls) (hresult : other.result = report.result) :
    Serves given label other := by
  cases h with
  | refused hrefuses =>
    obtain ⟨fault, hfault⟩ := hrefuses.result
    exact .refused ⟨hcalls.trans hrefuses.calls, fault, hresult.trans hfault⟩
  | built hbuild hcompile =>
    refine .built (hcalls.trans hbuild) fun compiler hcompiler => ?_
    exact hcompile compiler (hresult.symm.trans hcompiler)
  | again hgiven hnone hfound => exact .again hgiven (hcalls.trans hnone) (hresult.trans hfound)
  | used hgiven hcompile hfault => exact .used hgiven (hcalls.trans hcompile) (hresult.trans hfault)

theorem Serves.after_alter {label : String} {report : Report Compiler} (h : Serves given label report)
    (mapping : Value) (key : String) (remnant : Remnant) :
    Serves given label ((alter mapping key remnant).bind fun _ => report) := by
  have halter : (alter mapping key remnant).calls = [] ∧ (alter mapping key remnant).result = .ok () := by
    unfold alter
    split <;> exact ⟨rfl, rfl⟩
  refine h.congr ?_ ?_
  · rw [Report.bind_of_ok halter.2, halter.1, List.nil_append]
  · rw [Report.bind_of_ok halter.2]

theorem mappingAnswer_serves (mapping : Value) (name label : String) :
    Serves given label (mappingAnswer registry imports mapping name label) := by
  unfold mappingAnswer
  simp only
  split
  · rename_i value hfound
    exact (asCompiler_serves (mapped?_known hfound) label).after_alter _ _ _
  · exact (serves_fail label _).after_alter _ _ _
  · exact (serves_fail label _).after_alter _ _ _
  · rename_i value hfound
    exact asCompiler_serves (mapped?_known hfound) label
  · exact serves_fail label _
  · exact serves_fail label _

theorem viewAnswer_serves (mapping : Value) (name label : String) :
    Serves given label (viewAnswer registry imports mapping name label) := by
  unfold viewAnswer
  split
  · exact serves_fail label _
  · split
    · exact serves_fail label _
    · split
      · exact serves_fail label _
      · exact mappingAnswer_serves mapping name label

/-- Looking the label up as an attribute may ask a hook for it, which then builds for the label. -/
theorem attributeOf_serves (hrecord : OnRecord registry) {receiver : Value}
    (hreceiver : Stems registry given receiver) (label : String) :
    Serves given label
      ((attributeOf registry imports receiver label).bind (asCompiler registry imports)) := by
  obtain ⟨found, hfound, hreport⟩ | ⟨fault, hreport⟩ | ⟨name, factory, rfl, hlacks⟩ :=
    attributeOf_cases registry imports receiver label
  · rw [hreport, Report.succeed_bind]
    exact asCompiler_serves (attribute?_known (fun _ _ => trivial) hreceiver hfound) label
  · rw [hreport]
    exact serves_fail label fault
  · have hserves := (onRecord_of_isHook hrecord hlacks.isHook).serves given label
    rw [attributeOf_of_lacks hlacks]
    cases hbuild : (factory.build label).result with
    | error fault =>
      rw [Report.bind_of_error hbuild]
      exact hserves.congr rfl hbuild.symm
    | ok compiler =>
      rw [Report.bind_of_ok hbuild]
      exact hserves.congr (by simp [Report.bind, Report.succeed, asCompiler]) hbuild.symm

/-- A compiler that a module gave has the label compiled, and the model is no compiler. -/
theorem compile_serves (hrecord : OnRecord registry)
    (hgiven : ∀ attr compiler, given attr compiler → GivenFor registry attr compiler) {compiler : Compiler}
    (hknown : Stems registry given (.built compiler)) (label : String) :
    Serves given label
      ((compiler.compile label).bind fun model => gives model.typeName) := by
  obtain ⟨attr, hcompiler⟩ := hknown
  have hcalls : (compiler.compile label).calls = [.compile attr label] :=
    (hgiven attr compiler hcompiler).compile_calls hrecord label
  cases hresult : (compiler.compile label).result with
  | error fault =>
    rw [Report.bind_of_error hresult]
    exact .used hcompiler hcalls rfl
  | ok model =>
    rw [Report.bind_of_ok hresult]
    refine .used hcompiler ?_ rfl
    simp only [hcalls, gives, noCompiler, Report.fail, List.append_nil]

theorem ownAnswer_serves [Codecs] (hrecord : OnRecord registry)
    (hgiven : ∀ attr compiler, given attr compiler → GivenFor registry attr compiler) {receiver : Value}
    (hreceiver : Stems registry given receiver) (operation : Operation) (label : String) :
    Serves given label (ownAnswer registry imports receiver operation label) := by
  unfold ownAnswer
  split
  · exact attributeOf_serves hrecord hreceiver label
  · exact .refused (refuses_remove _ _)
  · exact .refused (refuses_lay _ _)
  · exact serves_fail label _
  · exact serves_fail label _
  · exact .refused (refuses_renameModule _ _)
  · exact .refused (refuses_rebound _)
  · exact compile_serves hrecord hgiven hreceiver label
  · exact serves_fail label _
  · exact .refused (refuses_textAnswer _ _ _)
  · exact viewAnswer_serves _ _ label
  · exact mappingAnswer_serves _ _ label

theorem operate_serves [Codecs] (hrecord : OnRecord registry)
    (hgiven : ∀ attr compiler, given attr compiler → GivenFor registry attr compiler) {receiver : Value}
    (hreceiver : Stems registry given receiver) (operation : Operation) (label : String) :
    Serves given label (operate registry imports receiver operation label) := by
  unfold operate
  split
  · unfold nothingWanted
    split <;> exact serves_fail label _
  · exact serves_fail label _
  · exact serves_fail label _
  · exact serves_fail label _
  · exact serves_fail label _
  · exact ownAnswer_serves hrecord hgiven hreceiver operation label

/-- A value that is called through its own call operator is called itself. -/
theorem apply_serves [Codecs] (hrecord : OnRecord registry)
    (hgiven : ∀ attr compiler, given attr compiler → GivenFor registry attr compiler) {value : Value}
    (hvalue : Stems registry given value) (label : String) :
    Serves given label (apply registry imports value label) := by
  induction value with
  | defined definition =>
    unfold apply
    split
    · rename_i factory hfactory
      exact (hrecord definition factory hvalue hfactory).serves given label
    · exact serves_fail label _
  | type className => exact .refused (refuses_construct className label)
  | unbound operation => exact .refused (refuses_operateAlone operation label)
  | bound receiver operation ih =>
    unfold apply
    split
    · exact ih hvalue
    · have hreceiver : Stems registry given receiver := hvalue
      exact operate_serves hrecord hgiven hreceiver operation label
  | _ => exact serves_fail label _

/-- What compiling a text under a label contributes to the calls: nothing, a factory call with the
label, or that call and a compilation of the text by what it built. A compiler that was given for an
attribute before may compile the text or the label instead. -/
inductive Contributes (given : String → Compiler → Prop) (label text : String) : List Call → Prop
  | nothing : Contributes given label text []
  | built : Contributes given label text [.build label]
  | compiled : Contributes given label text [.build label, .compile label text]
  | given {attr what : String} {compiler : Compiler} (hgiven : given attr compiler)
      (hwhat : what = text ∨ what = label) : Contributes given label text [.compile attr what]

theorem Serves.contributes (hrecord : OnRecord registry)
    (hgiven : ∀ attr compiler, given attr compiler → GivenFor registry attr compiler)
    {factory : Factory} {label : String}
    (h : Serves given label (factory.build label)) (text : String) :
    Contributes given label text (factory.run label text).calls := by
  have hrun : factory.run label text = (factory.build label).bind fun compiler => compiler.compile text :=
    rfl
  cases h with
  | refused hrefuses =>
    obtain ⟨fault, hfault⟩ := hrefuses.result
    rw [hrun, Report.bind_of_error hfault, hrefuses.calls]
    exact .nothing
  | built hcalls hcompile =>
    cases hresult : (factory.build label).result with
    | error fault =>
      rw [hrun, Report.bind_of_error hresult, hcalls]
      exact .built
    | ok compiler =>
      rw [hrun, Report.bind_of_ok hresult, hcalls, hcompile compiler hresult text]
      exact .compiled
  | again hcompiler hcalls hresult =>
    rw [hrun, Report.bind_of_ok hresult, hcalls, (hgiven _ _ hcompiler).compile_calls hrecord]
    exact .given hcompiler (Or.inl rfl)
  | used hcompiler hcalls hresult =>
    rw [hrun, Report.bind_of_error hresult, hcalls]
    exact .given hcompiler (Or.inr rfl)

end Import

namespace Reference

variable {registry : Registry} {reference : String} {imports : Imports}

theorem LeadsThrough.givenFor {attr : String} {compiler : Compiler}
    (h : LeadsThrough registry reference imports attr compiler) : Import.GivenFor registry attr compiler := by
  cases h with
  | given hgoes hlacks hbuilt => exact ⟨_, hlacks.isHook, hbuilt⟩

end Reference

end FactIntake
