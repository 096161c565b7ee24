import FactIntake.Proofs.LogFormats
import FactIntake.Proofs.Lookup

/-!
Resolving a reference again. A chain of modules is loaded up to the first that fails, and what is loaded
stays loaded; so the second time everything before that module is there, and the same module is asked for in
the same state. The path behind the module is then followed in that state as well. A second resolution comes
to what the first came to and leaves the modules as they are, and so does building a loader from settings
that name a compiler.
-/

namespace FactIntake

variable {α β : Type}

namespace Report

/-- A report ends as another one does: it has the same result, and does the last part of what the other
does. -/
structure Ends (later first : Report α) : Prop where
  result : later.result = first.result
  calls : later.calls <:+ first.calls
  events : later.events <:+ first.events
  changes : later.changes <:+ first.changes

theorem Ends.refl (report : Report α) : report.Ends report :=
  ⟨rfl, List.suffix_rfl, List.suffix_rfl, List.suffix_rfl⟩

theorem Ends.bind {later first : Report α} (h : later.Ends first) (next : α → Report β) :
    (later.bind next).Ends (first.bind next) := by
  cases hfirst : first.result with
  | error fault =>
    rw [bind_of_error hfirst, bind_of_error (h.result.trans hfirst)]
    exact ⟨rfl, h.calls, h.events, h.changes⟩
  | ok value =>
    rw [bind_of_ok hfirst, bind_of_ok (h.result.trans hfirst)]
    exact ⟨rfl, List.suffix_append_self_iff.mpr h.calls, List.suffix_append_self_iff.mpr h.events,
      List.suffix_append_self_iff.mpr h.changes⟩

/-- What comes last ends as the whole does. -/
theorem ends_bind {first : Report α} {later : Report β} {value : α} {next : α → Report β}
    (hfirst : first.result = .ok value) (h : later.Ends (next value)) : later.Ends (first.bind next) := by
  rw [bind_of_ok hfirst]
  exact ⟨h.result, h.calls.trans (List.suffix_append _ _), h.events.trans (List.suffix_append _ _),
    h.changes.trans (List.suffix_append _ _)⟩

end Report

/-- Something that is done with the imports, and done once more with the imports that it left: it ends
as it did before, and leaves them as they are. -/
structure Repeats (act : Imports → Report α × Imports) (imports : Imports) : Prop where
  ends : (act (act imports).2).1.Ends (act imports).1
  stays : (act (act imports).2).2 = (act imports).2

theorem repeats_of_unchanged {act : Imports → Report α × Imports} {imports : Imports}
    (h : (act imports).2 = imports) : Repeats act imports := by
  constructor
  · rw [h]
    exact .refl _
  · rw [h, h]

/-- What follows in the imports that are left is repeated with it. -/
theorem Repeats.bind {act : Imports → Report α × Imports} {imports : Imports} (h : Repeats act imports)
    (next : Imports → α → Report β) :
    Repeats (fun imports => ((act imports).1.bind (next (act imports).2), (act imports).2)) imports := by
  constructor
  · simp only [h.stays]
    exact h.ends.bind _
  · exact h.stays

namespace Imports

theorem change_nil (imports : Imports) : imports.change [] = imports := rfl

end Imports

namespace Import

variable {registry : Registry} {parent : Option String} {name : String} {names : List String}
  {imports later : Imports}

/-- By induction on the chain: a module that fails leaves everything as it was and fails again, and one
that is loaded is there the second time, so that only the rest of the chain is gone through. -/
theorem loadChain_repeats (registry : Registry) (parent : Option String) (names : List String)
    (imports : Imports) : Repeats (loadChain registry parent names) imports := by
  induction names generalizing parent imports with
  | nil => exact repeats_of_unchanged rfl
  | cons name names ih =>
    have hloads := loadsOne_loadOne registry parent name imports
    cases hone : loadOne registry parent name imports with
    | mk report middle =>
      rw [hone] at hloads
      rcases hloads.settles with ⟨hresult, hthere⟩ | ⟨fault, hresult, rfl⟩
      · have hrest := ih (some name) middle
        have hstill : (loadChain registry (some name) names middle).2.has name = true :=
          (loadChain_loads registry (some name) names middle).has hthere
        -- What was asked of the module's place the first time is not asked again.
        constructor
        · rw [loadChain_of_ok hone hresult, loadChain_of_has hstill]
          exact Report.ends_bind hresult hrest.ends
        · rw [loadChain_of_ok hone hresult, loadChain_of_has hstill]
          exact hrest.stays
      · exact repeats_of_unchanged (by rw [loadChain_of_error hone hresult])

theorem load_repeats (registry : Registry) (name : String) (imports : Imports) :
    Repeats (load registry name) imports := by
  by_cases hempty : name.isEmpty = true
  · exact repeats_of_unchanged (by simp only [load, hempty, if_true])
  · by_cases hpoint : (name.toList.head? == some '.') = true
    · exact repeats_of_unchanged (by simp only [load, hempty, hpoint, if_true, Bool.false_eq_true, if_false])
    · have hload : load registry name = loadChain registry none (chain name) := by
        funext imports
        simp only [load, hempty, hpoint, Bool.false_eq_true, if_false]
      rw [hload]
      exact loadChain_repeats _ _ _ _

end Import

namespace Reference

open Import

variable {registry : Registry} {reference : String} {imports later : Imports}

theorem importModule_ends {moduleName : String} {later first : Imports}
    (h : (load registry moduleName later).1.Ends (load registry moduleName first).1) :
    (importModule registry moduleName later).1.Ends (importModule registry moduleName first).1 := by
  cases hfirst : (load registry moduleName first).1.result with
  | ok done =>
    have hlater := h.result.trans hfirst
    simp only [importModule, hfirst, hlater]
    exact h
  | error fault =>
    have hlater := h.result.trans hfirst
    simp only [importModule, hfirst, hlater]
    split
    · exact ⟨rfl, h.calls, List.suffix_append_self_iff.mpr h.events, h.changes⟩
    · exact h

theorem importModule_repeats (registry : Registry) (moduleName : String) (imports : Imports) :
    Repeats (importModule registry moduleName) imports := by
  have hload := load_repeats registry moduleName imports
  constructor
  · rw [importModule_imports]
    exact importModule_ends hload.ends
  · rw [importModule_imports, importModule_imports]
    exact hload.stays

theorem resolve_repeats (registry : Registry) (reference : String) (imports : Imports) :
    Repeats (resolve registry reference) imports := by
  rcases resolve_cases registry reference with hrefused | hresolve
  · exact repeats_of_unchanged (by rw [hrefused])
  · rw [funext hresolve]
    exact (importModule_repeats registry _ imports).bind fun imports _ =>
      pick registry reference (split reference) imports

theorem resolve_loads (registry : Registry) (reference : String) (imports : Imports) :
    Loads registry (chain (split reference).moduleName) imports (resolve registry reference imports).2 := by
  rcases resolve_cases registry reference with hrefused | hresolve
  · rw [hrefused]
    exact loads_refl _ _ _
  · rw [hresolve, importModule_imports]
    exact load_loads _ _ _

end Reference

namespace Loader

open Import

variable {registry : Registry} {settings : Settings} {imports : Imports}

variable [Codecs]

/-- A loader is built without importing anything, or by resolving a reference. -/
theorem create_cases (registry : Registry) (factory : Option Factory) (settings : Settings) :
    (∀ imports, (create registry factory settings imports).2 = imports) ∨
      ∃ reference, ∀ imports, create registry factory settings imports =
        ((Reference.resolve registry reference imports).1.bind fun value =>
            .succeed ⟨factoryOf registry value, settings⟩,
          (Reference.resolve registry reference imports).2) := by
  cases factory with
  | some given =>
    left
    intro imports
    simp only [create]
  | none =>
    cases hreference : settings.compiler with
    | none =>
      left
      intro imports
      simp only [create, hreference]
    | some reference =>
      cases hempty : reference.isEmpty with
      | true =>
        left
        intro imports
        simp only [create, hreference, hempty, if_true]
      | false =>
        right
        refine ⟨reference, fun imports => ?_⟩
        simp only [create, hreference, hempty, Bool.false_eq_true, if_false]

theorem create_repeats (registry : Registry) (factory : Option Factory) (settings : Settings)
    (imports : Imports) : Repeats (create registry factory settings) imports := by
  rcases create_cases registry factory settings with hunchanged | ⟨reference, hcreate⟩
  · exact repeats_of_unchanged (hunchanged imports)
  · rw [funext hcreate]
    exact (Reference.resolve_repeats registry reference imports).bind fun _ value =>
      .succeed (Prepared.mk (factoryOf registry value) settings)

theorem create_loads (registry : Registry) (factory : Option Factory) (settings : Settings)
    (imports : Imports) : ∃ names, Loads registry names imports (create registry factory settings imports).2 := by
  rcases create_cases registry factory settings with hunchanged | ⟨reference, hcreate⟩
  · rw [hunchanged]
    exact ⟨[], loads_refl _ _ _⟩
  · simp only [hcreate]
    exact ⟨_, Reference.resolve_loads registry reference imports⟩

/-- The loader that the environment configures is the same when it is built for the next call. -/
theorem fromEnvironment_repeats (registry : Registry) (environment : Environment) (imports : Imports) :
    Repeats (fromEnvironment registry environment) imports := by
  cases hsettings : Settings.orFault (Settings.fromEnvironment environment []) with
  | error fault => exact repeats_of_unchanged (by simp only [fromEnvironment, hsettings])
  | ok settings =>
    have hbuilt : fromEnvironment registry environment = create registry none settings := by
      funext imports
      simp only [fromEnvironment, hsettings]
    rw [hbuilt]
    exact create_repeats registry none settings imports

theorem fromEnvironment_loads (registry : Registry) (environment : Environment) (imports : Imports) :
    ∃ names, Loads registry names imports (fromEnvironment registry environment imports).2 := by
  unfold fromEnvironment
  split
  · exact ⟨[], loads_refl _ _ _⟩
  · exact create_loads _ _ _ _

end Loader

namespace Session

open Import

variable {session : Session} {action : Action}

/-- The same modules can be imported; of these some were loaded and none unloaded. -/
structure Extends (before after : Session) : Prop where
  registry : after.registry = before.registry
  imports : ∃ names, Loads before.registry names before.imports after.imports

theorem extends_refl (session : Session) : Extends session session := ⟨rfl, [], loads_refl _ _ _⟩

theorem extends_of_loads {session : Session} {names : List String} {imports : Imports}
    (h : Loads session.registry names session.imports imports) :
    Extends session { session with imports := imports } := ⟨rfl, names, h⟩

theorem Extends.trans {first second third : Session} (h : Extends first second)
    (hlater : Extends second third) : Extends first third := by
  obtain ⟨names, hnames⟩ := h.imports
  obtain ⟨more, hmore⟩ := hlater.imports
  rw [h.registry] at hmore
  exact ⟨hlater.registry.trans h.registry, _, hnames.trans hmore⟩

theorem extends_install {built : Report Loader.Prepared} {names : List String} {imports : Imports}
    (h : Loads session.registry names session.imports imports) :
    Extends session (session.install built imports).2 := by
  unfold install
  simp only
  split <;> exact ⟨rfl, names, h⟩

variable [Codecs]

theorem step_resolve (session : Session) (reference : String) :
    (session.step (.resolve reference)).1 =
        (Reference.resolve session.registry reference session.imports).1.bind (.succeed <| .found ·) ∧
      (session.step (.resolve reference)).2.2.imports =
        (Reference.resolve session.registry reference session.imports).2.change
          (session.step (.resolve reference)).1.changes ∧
      (session.step (.resolve reference)).2.2.registry = session.registry := by
  simp only [step, perform, and_self]

/-- A reference that a session resolves twice in a row has the same answer both times and leaves the same
imports, as long as no module is changed by what it is asked for on the way. -/
theorem step_resolve_again (session : Session) (reference : String)
    (hchanges : (session.step (.resolve reference)).1.changes = []) :
    ((session.step (.resolve reference)).2.2.step (.resolve reference)).1.Ends
        (session.step (.resolve reference)).1 ∧
      ((session.step (.resolve reference)).2.2.step (.resolve reference)).2.2.imports =
        (session.step (.resolve reference)).2.2.imports := by
  have hrepeats := Reference.resolve_repeats session.registry reference session.imports
  obtain ⟨hreport, himports, hregistry⟩ := step_resolve session reference
  rw [hchanges, Imports.change_nil] at himports
  -- Of the session that the first step leaves, only the modules and the imports matter.
  generalize (session.step (.resolve reference)).2.2 = later at himports hregistry ⊢
  obtain ⟨hagain, hleft, -⟩ := step_resolve later reference
  rw [himports, hregistry] at hagain hleft
  have hends : (later.step (.resolve reference)).1.Ends (session.step (.resolve reference)).1 := by
    rw [hagain, hreport]
    exact hrepeats.ends.bind _
  have hnothing : (later.step (.resolve reference)).1.changes = [] := by
    rw [← List.suffix_nil, ← hchanges]
    exact hends.changes
  refine ⟨hends, ?_⟩
  rw [hleft, hnothing, Imports.change_nil, himports]
  exact hrepeats.stays

theorem extends_received (session : Session) (entry : Entry) : Extends session (session.received entry).2 := by
  unfold received receive
  cases entry.receiver with
  | configured => exact ⟨rfl, Loader.fromEnvironment_loads _ _ _⟩
  | current => cases session.loader <;> exact extends_refl session

theorem extends_perform (session : Session) (action : Action) : Extends session (session.perform action).2 := by
  have hentry : ∀ {entry}, action.entry? = some entry → Extends session (session.perform action).2 := by
    intro entry hentry
    have hreceived := extends_received session entry
    cases hresult : (session.received entry).1.result with
    | error fault =>
      rw [perform_of_unreceived hentry hresult]
      exact hreceived
    | ok loader =>
      obtain ⟨stdin, streams, hload⟩ := load_session (session.received entry).2 loader entry.request
      rw [perform_of_received hentry hresult, answered, hload]
      exact ⟨hreceived.registry, hreceived.imports⟩
  cases action with
  | compileFile receiver path => exact hentry rfl
  | compileStream receiver source label => exact hentry rfl
  | compileText receiver text label => exact hentry rfl
  | load request => exact hentry rfl
  | create factory given =>
    simp only [perform, create]
    split
    · exact extends_refl session
    · rename_i settings _
      obtain ⟨names, hnames⟩ := Loader.create_loads session.registry factory settings session.imports
      exact extends_install hnames
  | createDefault =>
    obtain ⟨names, hnames⟩ :=
      Loader.fromEnvironment_loads session.registry session.environment session.imports
    simp only [perform]
    exact extends_install hnames
  | resolve reference =>
    simp only [perform]
    exact extends_of_loads (Reference.resolve_loads session.registry reference session.imports)
  | settings | assign field value | configureLogging options =>
    simp only [perform]
    split <;> exact ⟨rfl, [], loads_refl _ _ _⟩
  | define | peek | peekStdin | replaceStdin | setVariable | place | remove | draft =>
    simp only [perform]
    exact ⟨rfl, [], loads_refl _ _ _⟩

/-- Changes of attributes load and unload nothing. -/
theorem extends_step (session : Session) (action : Action) : Extends session (session.step action).2.2 := by
  obtain ⟨hregistry, names, hnames⟩ := extends_perform session action
  exact ⟨hregistry, names, hnames.kept, hnames.fresh, hnames.once⟩

/-- Whatever a session does, no module is unloaded, none is loaded twice, and none is kept that fails. -/
theorem extends_run (session : Session) (actions : List Action) : Extends session (session.run actions).2 := by
  induction actions generalizing session with
  | nil => exact extends_refl session
  | cons action actions ih =>
    rw [run_cons]
    exact (extends_step session action).trans (ih _)

end Session

end FactIntake
