import FactIntake.Proofs.Reporting
import FactIntake.Proofs.SilentImports
import FactIntake.Proofs.Source

/-!
Loaders in silence. Two stocks of modules that are the same in silence make loaders that compile a source
alike, or no loader. Why there is no loader is told alike: why a module cannot be imported is not told.
-/

namespace FactIntake

open Fault

variable {lenient : Bool} {registry : Registry} {reference : String} {imports : Imports}

theorem Fault.bare_ne_of_isA {fault other : Fault} {className : String} (h : fault.isA className)
    (hother : other.isA className = false) : fault.bare ≠ other := by
  rintro rfl
  rw [Fault.isA_bare, h] at hother
  contradiction

namespace Compile

/-- What the command tells of a fault of settling its loader, apart from what faults of importing say. -/
def settling (fault : Fault) : Fault := (loaderFault fault).hushed

theorem loaderFault_of_import {fault : Fault} (h : fault.isA "ImportError") :
    loaderFault fault = fault := by
  have hsetting : fault.isA "ConfigurationError" = false := not_isA_of_apart (by decide) h
  unfold loaderFault
  split
  · rename_i issues hinvalid
    have hother : (invalid issues).isA "ImportError" = false := by
      show isKindOf "ValidationError" "ImportError" = false
      decide
    exact absurd hinvalid (bare_ne_of_isA h hother)
  · rw [if_neg (by simp [hsetting])]

@[simp] theorem settling_hushed (fault : Fault) : settling fault.hushed = settling fault := by
  cases himport : fault.isA "ImportError" with
  | true =>
    have hsilent : fault.hushed.isA "ImportError" := by simpa using himport
    rw [settling, settling, loaderFault_of_import himport, loaderFault_of_import hsilent,
      hushed_hushed]
  | false => rw [hushed_of_other himport]

end Compile

/-- Reports that differ at most in what faults of importing say are told alike by the command. -/
theorem Report.told_settling {report other : Report α}
    (h : report.told Fault.hushed = other.told Fault.hushed) :
    report.told Compile.settling = other.told Compile.settling := by
  apply told_of_told _ h
  intro fault why htell
  rw [← Compile.settling_hushed fault, htell, Compile.settling_hushed]

namespace Reference

open Import Compile

/-- Why a module cannot be imported is not told. -/
theorem settling_notImported (moduleName : String) (why other : Fault) :
    settling (notImported moduleName why).fault = settling (notImported moduleName other).fault := by
  have htold : ∀ cause, loaderFault (notImported moduleName cause).fault =
      .ended ((notImported moduleName cause).fault.message ++ "\n\n" ++ Ending.compilerHint)
        Ending.userError := by
    intro cause
    exact loaderFault_of_misconfigured (isKindOf_self "ConfigurationError")
  rw [settling, settling, htold, htold]
  rfl

theorem importModule_unseen (registry : Registry) (moduleName : String) (imports : Imports) :
    (importModule registry moduleName imports).1.calls = (load registry moduleName imports).1.calls ∧
      (importModule registry moduleName imports).1.changes =
        (load registry moduleName imports).1.changes := by
  unfold importModule
  simp only
  split
  · exact ⟨rfl, rfl⟩
  · split <;> exact ⟨rfl, rfl⟩

/-- Apart from what is logged, importing a module is loading it and telling of what goes wrong. -/
theorem importModule_told (tell : Fault → Fault) (moduleName : String) :
    (importModule registry moduleName imports).1.told tell =
      (load registry moduleName imports).1.told (tell ∘ toldOfModule moduleName) := by
  obtain ⟨hcalls, hchanges⟩ := importModule_unseen registry moduleName imports
  have hresult : (importModule registry moduleName imports).1.result.mapError tell =
      (load registry moduleName imports).1.result.mapError (tell ∘ toldOfModule moduleName) := by
    rw [importModule_result]
    cases (load registry moduleName imports).1.result <;> rfl
  unfold Report.told
  rw [hresult, hcalls, hchanges]

/-- A module is imported in silence as it is otherwise, and what is told of it is the same. -/
theorem importModule_silent (moduleName : String) :
    (importModule (registry.silent lenient) moduleName imports).1.told settling =
      (importModule registry moduleName imports).1.told settling := by
  rw [importModule_told, importModule_told]
  apply Report.told_of_told _ (load_silent moduleName).report
  intro fault why htell
  -- What faults of importing say differs here, and becomes the cause of what is told.
  rcases hushed_cases htell with ⟨hfault, hwhy⟩ | rfl
  · simp only [Function.comp_apply, toldOfModule, hfault, hwhy, if_true]
    exact settling_notImported moduleName fault why
  · rfl

theorem resolve_refused (reference : String) (h : ¬ WellFormed reference) :
    resolve registry reference imports = (.fail (malformed reference), imports) := by
  have hempty : ((split reference).moduleName.isEmpty || (split reference).path.isEmpty) = true := by
    simpa [WellFormed, Bool.or_eq_true, String.isEmpty_iff, Classical.or_iff_not_imp_left] using h
  unfold resolve
  simp only [hempty, if_true]

theorem resolve_imports (h : WellFormed reference) :
    (resolve registry reference imports).2 = (loaded registry reference imports).2 := by
  have hparts : ((split reference).moduleName.isEmpty || (split reference).path.isEmpty) = false := by
    obtain ⟨hmodule, hpath⟩ := h
    simp [hmodule, hpath]
  unfold resolve loaded
  simp only [hparts, Bool.false_eq_true, if_false, importModule_imports]

/-- A reference leads to the same value in silence, or what is told of it is the same. -/
theorem resolve_silent (reference : String) :
    (resolve (registry.silent lenient) reference imports).1.told settling =
      ((resolve registry reference imports).1.muted (Value.silent lenient)).told settling := by
  by_cases hparts : WellFormed reference
  · have himports : (loaded (registry.silent lenient) reference imports).2 =
        (loaded registry reference imports).2 := (load_silent _).imports
    have himported : (importModule (registry.silent lenient) (split reference).moduleName
          imports).1.told settling =
        ((importModule registry (split reference).moduleName imports).1.muted id).told settling :=
      (importModule_silent _).trans (Report.told_muted_id _ _).symm
    rw [resolve_of_wellFormed hparts, resolve_of_wellFormed hparts, himports]
    apply Report.told_muted_bind himported
    intro done
    exact Report.told_settling (pick_hushed reference (split reference))
  · rw [resolve_refused reference hparts, resolve_refused reference hparts]
    rfl

/-- The same modules are loaded for a reference in silence. -/
theorem resolve_silent_imports (reference : String) :
    (resolve (registry.silent lenient) reference imports).2 =
      (resolve registry reference imports).2 := by
  by_cases hparts : WellFormed reference
  · rw [resolve_imports hparts, resolve_imports hparts]
    exact (load_silent _).imports
  · rw [resolve_refused reference hparts, resolve_refused reference hparts]

end Reference

namespace Loader

open Compile

variable {other : Registry}

/-- What two loaders have compiled is the same, whatever is imported at the time. -/
structure Prepared.Alike (lenient : Bool) (first second : Prepared) : Prop where
  settings : first.settings = second.settings
  run : ∀ imports label, Heard lenient label → ∀ text,
    ((first.factory imports).run label text).muted id = ((second.factory imports).run label text).muted id

/-- Two attempts at a loader come to loaders that are alike, or to faults that are told alike. -/
structure SettledAlike (lenient : Bool) (first second : Report Prepared × Imports) : Prop where
  calls : first.1.calls = second.1.calls
  imports : first.2 = second.2
  result : (∃ fault why, first.1.result = .error fault ∧ second.1.result = .error why ∧
      settling fault = settling why) ∨
    ∃ prepared given, first.1.result = .ok prepared ∧ second.1.result = .ok given ∧
      Prepared.Alike lenient prepared given

theorem settledAlike_of_fault (fault : Fault) (imports : Imports) :
    SettledAlike lenient (.fail fault, imports) (.fail fault, imports) :=
  ⟨rfl, rfl, Or.inl ⟨fault, fault, rfl, rfl, rfl⟩⟩

variable {factory given : Factory} {settings : Settings} {path : String}

theorem heard_label (h : Heard lenient path) (loader : Loader) : Heard lenient (loader.label path) := by
  unfold label
  split
  · intro _
    decide
  · exact h

theorem compileText_alike {name : String} (text : String)
    (h : (factory.run name text).muted id = (given.run name text).muted id) :
    (compileText ⟨factory, settings⟩ text name).muted id =
      (compileText ⟨given, settings⟩ text name).muted id := by
  unfold compileText
  split
  · rfl
  · simp only [Report.bind_eq, Report.muted_id_bind, h]

/-- What a fault on compiling the source at a path comes out as. -/
def outcomeOf (path : String) (fault : Fault) : Fault :=
  if passes fault then fault else failure path (normalised path fault)

theorem intercept_muted (path : String) (report : Report Model) :
    (intercept path report).muted id = (report.muted id).amended (outcomeOf path) := by
  cases report with
  | mk result calls events changes =>
    cases result with
    | ok model => rfl
    | error fault =>
      cases hpasses : passes fault <;>
        simp [intercept, Report.muted, Report.amended, Except.map, outcomeOf, hpasses]

variable [Codecs]

/-- Values that are the same in silence make loaders that are alike. -/
theorem alike_of_silent {value found : Import.Value} {settings : Settings}
    (hregistry : registry.silent lenient = other.silent lenient)
    (hvalue : value.silent lenient = found.silent lenient) :
    Prepared.Alike lenient ⟨Import.factoryOf registry value, settings⟩
      ⟨Import.factoryOf other found, settings⟩ := by
  refine ⟨rfl, ?_⟩
  intro imports label hlabel text
  simp only
  rw [← Import.run_silent hlabel value text, ← Import.run_silent hlabel found text, hregistry, hvalue]

/-- What is made of values that are the same in silence, or of faults that are told alike. -/
theorem settledAlike_of_values {first second : Report Import.Value} {later further : Imports}
    (hregistry : registry.silent lenient = other.silent lenient) (settings : Settings)
    (himports : later = further)
    (h : (first.muted (Import.Value.silent lenient)).told settling =
      (second.muted (Import.Value.silent lenient)).told settling) :
    SettledAlike lenient
      (first.bind fun value => .succeed ⟨Import.factoryOf registry value, settings⟩, later)
      (second.bind fun value => .succeed ⟨Import.factoryOf other value, settings⟩, further) := by
  have hcalls : (first.muted (Import.Value.silent lenient)).calls =
      (second.muted (Import.Value.silent lenient)).calls := Report.told_calls h
  have hresult : (first.result.map (Import.Value.silent lenient)).mapError settling =
      (second.result.map (Import.Value.silent lenient)).mapError settling := congrArg Report.result h
  cases hfirst : first.result with
  | error fault =>
    cases hsecond : second.result with
    | error why =>
      rw [hfirst, hsecond] at hresult
      rw [Report.bind_of_error hfirst, Report.bind_of_error hsecond]
      exact ⟨hcalls, himports, Or.inl ⟨fault, why, rfl, rfl, Except.error.inj hresult⟩⟩
    | ok found =>
      rw [hfirst, hsecond] at hresult
      cases hresult
  | ok value =>
    cases hsecond : second.result with
    | error why =>
      rw [hfirst, hsecond] at hresult
      cases hresult
    | ok found =>
      rw [hfirst, hsecond] at hresult
      rw [Report.bind_of_ok hfirst, Report.bind_of_ok hsecond]
      refine ⟨?_, himports, Or.inr ⟨_, _, rfl, rfl, alike_of_silent hregistry ?_⟩⟩
      · exact congrArg (· ++ []) hcalls
      · exact Except.ok.inj hresult

theorem create_alike (h : registry.silent lenient = other.silent lenient) (settings : Settings)
    (imports : Imports) :
    SettledAlike lenient (create registry none settings imports) (create other none settings imports) := by
  unfold create
  cases settings.compiler with
  | none => exact settledAlike_of_fault _ _
  | some reference =>
    simp only
    split
    · exact settledAlike_of_fault _ _
    · have hresolved : ((Reference.resolve registry reference imports).1.muted
            (Import.Value.silent lenient)).told settling =
          ((Reference.resolve other reference imports).1.muted
            (Import.Value.silent lenient)).told settling := by
        rw [← Reference.resolve_silent, ← Reference.resolve_silent, h]
      have himports : (Reference.resolve registry reference imports).2 =
          (Reference.resolve other reference imports).2 := by
        calc (Reference.resolve registry reference imports).2
          _ = (Reference.resolve (registry.silent lenient) reference imports).2 :=
            (Reference.resolve_silent_imports reference).symm
          _ = (Reference.resolve (other.silent lenient) reference imports).2 := by rw [h]
          _ = (Reference.resolve other reference imports).2 :=
            Reference.resolve_silent_imports reference
      cases hfirst : Reference.resolve registry reference imports with
      | mk first later =>
        cases hsecond : Reference.resolve other reference imports with
        | mk second further =>
          rw [hfirst, hsecond] at hresolved himports
          exact settledAlike_of_values h settings himports hresolved

theorem compileStream_alike {name : String} (stream : Stream)
    (h : ∀ text, (factory.run name text).muted id = (given.run name text).muted id) :
    (compileStream ⟨factory, settings⟩ stream name).1.muted id =
        (compileStream ⟨given, settings⟩ stream name).1.muted id ∧
      (compileStream ⟨factory, settings⟩ stream name).2 =
        (compileStream ⟨given, settings⟩ stream name).2 := by
  refine ⟨?_, rfl⟩
  simp only [compileStream, Report.bind_eq, Report.muted_id_bind, compileText_alike _ (h _)]
  rfl

/-- Of its factory a loader only uses what comes of the label of the source, and a text. -/
theorem compileSource_alike (disk : Disk) (stdin : Stream)
    (h : ∀ text, (factory.run (label ⟨factory, settings⟩ path) text).muted id =
      (given.run (label ⟨factory, settings⟩ path) text).muted id) :
    (compileSource ⟨factory, settings⟩ disk stdin path).1.muted id =
        (compileSource ⟨given, settings⟩ disk stdin path).1.muted id ∧
      (compileSource ⟨factory, settings⟩ disk stdin path).2 =
        (compileSource ⟨given, settings⟩ disk stdin path).2 := by
  unfold compileSource
  unfold label at h
  cases hstdin : Sentinel.isStdin path settings.extensions with
  | true =>
    simp only [hstdin, if_true] at h ⊢
    exact compileStream_alike stdin h
  | false =>
    simp only [hstdin, Bool.false_eq_true, if_false] at h ⊢
    have htext : fileText ⟨factory, settings⟩ disk path = fileText ⟨given, settings⟩ disk path := rfl
    simp only [Report.muted_after, Report.bind_eq, Report.muted_id_bind, compileText_alike _ (h _),
      htext, and_self]

/-- Loaders that have the same compiled of the label of a source compile that source alike. -/
theorem compileFile_alike (disk : Disk) (stdin : Stream)
    (h : ∀ text, (factory.run (label ⟨factory, settings⟩ path) text).muted id =
      (given.run (label ⟨factory, settings⟩ path) text).muted id) :
    (compileFile ⟨factory, settings⟩ disk stdin path).1.muted id =
        (compileFile ⟨given, settings⟩ disk stdin path).1.muted id ∧
      (compileFile ⟨factory, settings⟩ disk stdin path).2 =
        (compileFile ⟨given, settings⟩ disk stdin path).2 := by
  obtain ⟨hsource, hstdin⟩ := compileSource_alike disk stdin h
  refine ⟨?_, hstdin⟩
  rw [compileFile_eq, compileFile_eq, intercept_muted, intercept_muted, hsource]

/-- Loaders that are alike compile a source alike. -/
theorem Prepared.Alike.compileFile {first second : Prepared} (h : Prepared.Alike lenient first second)
    (hpath : Heard lenient path) (imports : Imports) (disk : Disk) (stdin : Stream) :
    ((first.loader imports).compileFile disk stdin path).1.muted id =
        ((second.loader imports).compileFile disk stdin path).1.muted id ∧
      ((first.loader imports).compileFile disk stdin path).2 =
        ((second.loader imports).compileFile disk stdin path).2 := by
  obtain ⟨factory, settings⟩ := first
  obtain ⟨given, others⟩ := second
  obtain rfl : settings = others := h.settings
  exact compileFile_alike disk stdin (h.run imports _ (heard_label hpath _))

end Loader

end FactIntake
