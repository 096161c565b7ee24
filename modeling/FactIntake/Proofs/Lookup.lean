import FactIntake.Loader
import FactIntake.Proofs.KnownValues

/-!
Calls on the way to a loader. A reference is looked up module by module, then attribute by attribute. A
module that is loaded for it makes the calls of its own code. A package that does not say where its
children are, and a module on the path that lacks the next attribute, is asked through the factory that
it keeps for that. Settling a loader makes no other calls, and only these factories change attributes on
the way.
-/

namespace FactIntake.Reference

open Import

variable {registry : Registry} {reference : String} {imports middle later : Imports}

/-- What comes of asking a loaded module for an attribute that it lacks: a package of the reference for
the place of its children, or the module that the path leads to for the next attribute. -/
inductive Asks (registry : Registry) (reference : String) (imports : Imports) : Report Compiler → Prop
  | package {name : String} {factory : Factory} (hname : name ∈ chain (split reference).moduleName)
      (hloaded : imports.has name = true) (hlacks : Lacks registry imports name "__path__" factory) :
      Asks registry reference imports (factory.build "__path__")
  | onPath {name attr : String} {factory : Factory} (hgoes : GoesTo registry reference imports name attr)
      (hlacks : Lacks registry imports name attr factory) :
      Asks registry reference imports (factory.build attr)

theorem Asks.isHook {report : Report Compiler} (h : Asks registry reference imports report) :
    ∃ factory attr, IsHook registry factory ∧ report = factory.build attr := by
  cases h with
  | package hname hloaded hlacks => exact ⟨_, _, hlacks.isHook, rfl⟩
  | onPath hgoes hlacks => exact ⟨_, _, hlacks.isHook, rfl⟩

/-- What is called and what is changed while a reference is looked up: modules of the reference that are
not there yet are loaded, and loaded modules are asked for attributes that they lack. The first step
that fails is the last. -/
inductive Looked (registry : Registry) (reference : String) :
    Imports → Imports → List Call → List Change → Prop
  | done {imports : Imports} : Looked registry reference imports imports [] []
  | added {imports later : Imports} {calls : List Call} {changes : List Change} {parent : Option String}
      {name : String} {found : Module} (hname : name ∈ chain (split reference).moduleName)
      (hnew : imports.has name = false) (hfound : registry name = some found)
      (hresult : found.loading.outcome.result = .ok ())
      (hlater : Looked registry reference (imports.add parent name) later calls changes) :
      Looked registry reference imports later (found.loading.calls ++ calls) changes
  | failed {imports : Imports} {name : String} {found : Module} {fault : Fault}
      (hname : name ∈ chain (split reference).moduleName) (hnew : imports.has name = false)
      (hfound : registry name = some found) (hresult : found.loading.outcome.result = .error fault) :
      Looked registry reference imports imports found.loading.calls []
  | answered {imports later : Imports} {calls : List Call} {changes : List Change} {report : Report Compiler}
      {compiler : Compiler} (hasks : Asks registry reference imports report)
      (hresult : report.result = .ok compiler) (hlater : Looked registry reference imports later calls changes) :
      Looked registry reference imports later (report.calls ++ calls) (report.changes ++ changes)
  | refused {imports : Imports} {report : Report Compiler} {fault : Fault}
      (hasks : Asks registry reference imports report) (hresult : report.result = .error fault) :
      Looked registry reference imports imports report.calls report.changes

/-- No module calls anything as it is loaded, and none keeps a factory to be asked for attributes. -/
structure CallsNothing (registry : Registry) : Prop where
  loading : ∀ name found, registry name = some found → found.loading.calls = []
  hook : ∀ factory, ¬ IsHook registry factory

/-- Where no module can be imported, none calls anything. -/
theorem callsNothing_nowhere : CallsNothing fun _ => none :=
  ⟨fun _ _ hfound => by simp at hfound, fun _ ⟨_, _, _, hfound, _⟩ => by simp at hfound⟩

theorem Looked.calls_eq_nil {calls : List Call} {changes : List Change} (hnothing : CallsNothing registry)
    (h : Looked registry reference imports later calls changes) : calls = [] := by
  induction h with
  | done => rfl
  | added hname hnew hfound hresult hlater ih => rw [hnothing.loading _ _ hfound, ih, List.append_nil]
  | failed hname hnew hfound hresult => exact hnothing.loading _ _ hfound
  | answered hasks =>
    obtain ⟨factory, -, hhook, -⟩ := hasks.isHook
    exact absurd hhook (hnothing.hook factory)
  | refused hasks =>
    obtain ⟨factory, -, hhook, -⟩ := hasks.isHook
    exact absurd hhook (hnothing.hook factory)

/-- Whatever a report calls or changes comes of looking a reference up. After one that fails nothing
else does. -/
structure OnlyLooks (registry : Registry) (reference : String) (imports : Imports) (report : Report α)
    (later : Imports) : Prop where
  onward : report.result.isOk = true → ∀ {last calls changes}, Looked registry reference later last calls changes →
    Looked registry reference imports last (report.calls ++ calls) (report.changes ++ changes)
  ended : report.result.isOk = false → Looked registry reference imports later report.calls report.changes

theorem OnlyLooks.looked {report : Report α} (h : OnlyLooks registry reference imports report later) :
    Looked registry reference imports later report.calls report.changes := by
  cases hok : report.result.isOk with
  | true => simpa using h.onward hok .done
  | false => exact h.ended hok

/-- A report without calls and changes comes of any lookup. -/
theorem onlyLooks_of_nothing {report : Report α} (hcalls : report.calls = []) (hchanges : report.changes = []) :
    OnlyLooks registry reference imports report imports := by
  constructor
  · intro _ last calls changes hlater
    rwa [hcalls, hchanges]
  · intro _
    rw [hcalls, hchanges]
    exact .done

theorem onlyLooks_fail (fault : Fault) :
    OnlyLooks registry reference imports (.fail fault : Report α) imports := onlyLooks_of_nothing rfl rfl

theorem onlyLooks_succeed (value : α) : OnlyLooks registry reference imports (.succeed value) imports :=
  onlyLooks_of_nothing rfl rfl

theorem OnlyLooks.bind_of_error {report : Report α} {fault : Fault}
    (h : OnlyLooks registry reference imports report later) (hresult : report.result = .error fault)
    (next : α → Report β) : OnlyLooks registry reference imports (report.bind next) later := by
  have hended : report.result.isOk = false := by rw [hresult]; rfl
  rw [Report.bind_of_error hresult]
  exact ⟨fun hok => absurd hok Bool.false_ne_true, fun _ => h.ended hended⟩

theorem OnlyLooks.bind_of_ok {report : Report α} {value : α} {next : α → Report β}
    (h : OnlyLooks registry reference imports report middle) (hresult : report.result = .ok value)
    (hnext : OnlyLooks registry reference middle (next value) later) :
    OnlyLooks registry reference imports (report.bind next) later := by
  have honward : report.result.isOk = true := by rw [hresult]; rfl
  rw [Report.bind_of_ok hresult]
  constructor
  · intro hok last calls changes hlast
    simpa only [List.append_assoc] using h.onward honward (hnext.onward hok hlast)
  · intro hended
    exact h.onward honward (hnext.ended hended)

/-- What follows in the same imports. -/
theorem OnlyLooks.bind {report : Report α} {next : α → Report β}
    (h : OnlyLooks registry reference imports report imports)
    (hnext : ∀ value, report.result = .ok value → OnlyLooks registry reference imports (next value) imports) :
    OnlyLooks registry reference imports (report.bind next) imports := by
  cases hresult : report.result with
  | error fault => exact h.bind_of_error hresult next
  | ok value => exact h.bind_of_ok hresult (hnext value hresult)

/-- Telling a fault in other words calls nothing. -/
theorem OnlyLooks.told {report other : Report α} (h : OnlyLooks registry reference imports report later)
    (hok : other.result.isOk = report.result.isOk) (hcalls : other.calls = report.calls)
    (hchanges : other.changes = report.changes) : OnlyLooks registry reference imports other later := by
  constructor
  · rw [hok, hcalls, hchanges]
    exact h.onward
  · rw [hok, hcalls, hchanges]
    exact h.ended

theorem onlyLooks_asked {report : Report Compiler} (hasks : Asks registry reference imports report) :
    OnlyLooks registry reference imports report imports := by
  cases hresult : report.result with
  | ok compiler =>
    refine ⟨fun _ _ _ _ hlater => .answered hasks hresult hlater, fun hnot => ?_⟩
    rw [hresult] at hnot
    cases hnot
  | error fault =>
    refine ⟨fun hok => ?_, fun _ => .refused hasks hresult⟩
    rw [hresult] at hok
    cases hok

/-- Going to an attribute calls nothing but the factory of a module that lacks it. -/
theorem attributeOf_onlyLooks {value : Import.Value} {attr : String}
    (hasks : ∀ name factory, value = .module name → Lacks registry imports name attr factory →
      Asks registry reference imports (factory.build attr)) :
    OnlyLooks registry reference imports (attributeOf registry imports value attr) imports := by
  obtain ⟨found, -, hreport⟩ | ⟨fault, hreport⟩ | ⟨name, factory, rfl, hlacks⟩ :=
    attributeOf_cases registry imports value attr
  · rw [hreport]
    exact onlyLooks_succeed found
  · rw [hreport]
    exact onlyLooks_fail fault
  · rw [attributeOf_of_lacks hlacks]
    exact (onlyLooks_asked (hasks name factory rfl hlacks)).bind fun _ _ => onlyLooks_succeed _

theorem childrenOf_onlyLooks {parent name : String} (hparent : parent ∈ chain (split reference).moduleName)
    (hloaded : imports.has parent = true) :
    OnlyLooks registry reference imports (childrenOf registry imports parent name) imports := by
  have hasked : OnlyLooks registry reference imports
      (attributeOf registry imports (.module parent) "__path__") imports := by
    refine attributeOf_onlyLooks fun other factory hmodule hlacks => ?_
    obtain rfl := Import.Value.module.inj hmodule
    exact .package hparent hloaded hlacks
  unfold childrenOf
  cases hresult : (attributeOf registry imports (.module parent) "__path__").result with
  | ok found => simpa only [hresult] using hasked
  | error fault =>
    simp only [hresult]
    split
    · exact hasked.told (by rw [hresult]; rfl) rfl rfl
    · exact hasked

theorem loadFrom_onlyLooks {parent : Option String} {name : String} (place : Option Import.Value)
    (hname : name ∈ chain (split reference).moduleName) (hnew : imports.has name = false) :
    OnlyLooks registry reference imports (loadFrom registry parent place name imports).1
      (loadFrom registry parent place name imports).2 := by
  cases hfound : registry name with
  | none =>
    simp only [loadFrom, hfound]
    exact onlyLooks_fail _
  | some found =>
    cases hresult : found.loading.outcome.result with
    | ok done =>
      rw [loadFrom_of_ok place hfound hresult]
      refine ⟨fun _ _ _ _ hlater => .added hname hnew hfound hresult hlater, fun hnot => ?_⟩
      rw [Loading.report, hresult] at hnot
      cases hnot
    | error fault =>
      rw [loadFrom_of_error place hfound hresult]
      refine ⟨fun hok => ?_, fun _ => .failed hname hnew hfound hresult⟩
      rw [Loading.report, hresult] at hok
      cases hok

/-- The module that is loaded before comes from the reference as well. -/
theorem loadOne_onlyLooks {parent : Option String} {name : String}
    (hname : name ∈ chain (split reference).moduleName)
    (hparent : ∀ prior, parent = some prior →
      prior ∈ chain (split reference).moduleName ∧ imports.has prior = true) :
    OnlyLooks registry reference imports (loadOne registry parent name imports).1
      (loadOne registry parent name imports).2 := by
  unfold loadOne
  by_cases hthere : imports.has name
  · rw [if_pos hthere]
    exact onlyLooks_succeed ()
  · have hnew : imports.has name = false := by simpa using hthere
    rw [if_neg hthere]
    cases parent with
    | none =>
      have hnothing : OnlyLooks registry reference imports (.succeed (none : Option Import.Value)) imports :=
        onlyLooks_succeed none
      have hbound : OnlyLooks registry reference imports
          ((Report.succeed (none : Option Import.Value)).bind fun _ => (loadFrom registry none none name imports).1)
          (loadFrom registry none none name imports).2 :=
        hnothing.bind_of_ok rfl (loadFrom_onlyLooks none hname hnew)
      exact hbound
    | some parent =>
      obtain ⟨hmem, hloaded⟩ := hparent parent rfl
      have hasked : OnlyLooks registry reference imports
          ((childrenOf registry imports parent name).bind (.succeed <| some ·)) imports :=
        (childrenOf_onlyLooks hmem hloaded).bind fun _ _ => onlyLooks_succeed _
      simp only
      split
      · rename_i fault hfault
        exact hasked.bind_of_error hfault _
      · rename_i place hplace
        exact hasked.bind_of_ok hplace (loadFrom_onlyLooks place hname hnew)

/-- By induction on the chain: the modules before are loaded once it is gone on. -/
theorem loadChain_onlyLooks {parent : Option String} {names : List String}
    (hnames : ∀ name ∈ names, name ∈ chain (split reference).moduleName)
    (hparent : ∀ prior, parent = some prior →
      prior ∈ chain (split reference).moduleName ∧ imports.has prior = true) :
    OnlyLooks registry reference imports (loadChain registry parent names imports).1
      (loadChain registry parent names imports).2 := by
  induction names generalizing parent imports with
  | nil => exact onlyLooks_succeed ()
  | cons name names ih =>
    obtain ⟨hname, hrest⟩ := List.forall_mem_cons.mp hnames
    have hfirst : OnlyLooks registry reference imports (loadOne registry parent name imports).1
        (loadOne registry parent name imports).2 := loadOne_onlyLooks hname hparent
    have hloads := loadsOne_loadOne registry parent name imports
    cases hone : loadOne registry parent name imports with
    | mk report middle =>
      rw [hone] at hfirst hloads
      rcases hloads.settles with ⟨hresult, hthere⟩ | ⟨fault, hresult, rfl⟩
      · rw [loadChain_of_ok hone hresult]
        refine hfirst.bind_of_ok hresult (ih hrest ?_)
        rintro prior ⟨⟩
        exact ⟨hname, hthere⟩
      · rw [loadChain_of_error hone hresult]
        exact hfirst

theorem load_onlyLooks (registry : Registry) (reference : String) (imports : Imports) :
    OnlyLooks registry reference imports (loaded registry reference imports).1
      (loaded registry reference imports).2 := by
  unfold loaded load
  split
  · exact onlyLooks_fail _
  · split
    · exact onlyLooks_fail _
    · exact loadChain_onlyLooks (fun _ => id) (by simp)

theorem importModule_onlyLooks (registry : Registry) (reference : String) (imports : Imports) :
    OnlyLooks registry reference imports (importModule registry (split reference).moduleName imports).1
      (loaded registry reference imports).2 := by
  have hload := load_onlyLooks registry reference imports
  cases hpair : loaded registry reference imports with
  | mk report later =>
    rw [hpair] at hload
    rw [loaded] at hpair
    cases hresult : report.result with
    | ok done => simpa only [importModule, hpair, hresult] using hload
    | error fault =>
      simp only [importModule, hpair, hresult]
      split
      · exact hload.told (by rw [hresult]; rfl) rfl rfl
      · exact hload

theorem step_onlyLooks (absent : Fault → Fault) {value : Import.Value} {attr : String}
    (h : OnlyLooks registry reference imports (attributeOf registry imports value attr) imports) :
    OnlyLooks registry reference imports (step registry imports absent value attr) imports := by
  unfold step
  cases hresult : (attributeOf registry imports value attr).result with
  | ok found => simpa only [hresult] using h
  | error fault =>
    simp only [hresult]
    split
    · exact h.told (by rw [hresult]; rfl) rfl rfl
    · exact h

/-- By induction on what is left of the path, once the path before led to a value. -/
theorem walk_onlyLooks {front path : List String} {value : Import.Value} (absent : Fault → Fault)
    (hpath : Text.pieces '.' (split reference).path = front ++ path)
    (hfront : follow registry imports (.module (split reference).moduleName) front = .ok value)
    (hvalue : Known registry (fun name => imports.has name = true) (fun _ _ => True) value) :
    OnlyLooks registry reference imports (walk registry imports absent value path) imports := by
  induction path generalizing front value with
  | nil => exact onlyLooks_succeed value
  | cons attr path ih =>
    have hasked : OnlyLooks registry reference imports (attributeOf registry imports value attr) imports := by
      refine attributeOf_onlyLooks fun name factory hmodule hlacks => ?_
      subst hmodule
      exact .onPath ⟨⟨front, path, hpath, hfront⟩, hvalue⟩ hlacks
    refine (step_onlyLooks absent hasked).bind fun next hnext => ?_
    have hfound : (attributeOf registry imports value attr).result = .ok next := by
      rw [step_result] at hnext
      cases hresult : (attributeOf registry imports value attr).result with
      | ok found => rwa [hresult] at hnext
      | error why => simp [hresult] at hnext
    have hahead : Text.pieces '.' (split reference).path = (front ++ [attr]) ++ path := by simp [hpath]
    refine ih hahead ?_ ?_
    · rw [follow_append hfront]
      simp only [follow, hfound]
    · exact attributeOf_known (fun _ => id) hvalue (fun _ _ _ _ _ _ => trivial) hfound

theorem pick_onlyLooks (hloaded : (loaded registry reference imports).1.result = .ok ()) :
    OnlyLooks registry reference (loaded registry reference imports).2
      (pick registry reference (split reference) (loaded registry reference imports).2)
      (loaded registry reference imports).2 := by
  have hmodule : Known registry (fun name => (loaded registry reference imports).2.has name = true)
      (fun _ _ => True) (.module (split reference).moduleName) := loaded_has hloaded
  unfold pick
  rw [Report.bind_eq]
  refine (walk_onlyLooks (notFound reference (split reference).moduleName) (List.nil_append _).symm rfl
    hmodule).bind fun value _ => ?_
  split
  · exact onlyLooks_of_nothing rfl rfl
  · exact onlyLooks_fail _

/-- Whatever a reference leads to, and however it ends. -/
theorem resolve_looked (registry : Registry) (reference : String) (imports : Imports) :
    Looked registry reference imports (resolve registry reference imports).2
      (resolve registry reference imports).1.calls (resolve registry reference imports).1.changes := by
  rcases resolve_cases registry reference with hrefused | hresolve
  · rw [hrefused]
    exact .done
  · have himport := importModule_onlyLooks registry reference imports
    have hpick := @pick_onlyLooks registry reference imports
    have hresult := @importModule_result registry imports (split reference).moduleName
    rw [hresolve, importModule_imports]
    rw [← loaded] at hresult ⊢
    -- Of the module and of the path behind it only these reports matter.
    generalize importModule registry (split reference).moduleName imports = imported at himport hresult ⊢
    cases hloaded : (loaded registry reference imports).1.result with
    | error why =>
      rw [hloaded] at hresult
      exact (himport.bind_of_error hresult _).looked
    | ok done =>
      rw [hloaded] at hresult
      have hbound : OnlyLooks registry reference imports
          (imported.1.bind fun _ => pick registry reference (split reference) (loaded registry reference imports).2)
          (loaded registry reference imports).2 := himport.bind_of_ok hresult (hpick hloaded)
      exact hbound.looked

/-- The calls of looking a reference up, if there is one to be looked up. -/
def LooksUp (registry : Registry) (reference? : Option String) (imports : Imports) (calls : List Call) : Prop :=
  calls = [] ∨ ∃ reference later changes, reference? = some reference ∧
    Looked registry reference imports later calls changes

theorem looksUp_nil (reference? : Option String) : LooksUp registry reference? imports [] := Or.inl rfl

theorem LooksUp.eq_nil {reference? : Option String} {calls : List Call} (hnothing : CallsNothing registry)
    (h : LooksUp registry reference? imports calls) : calls = [] := by
  obtain hnone | ⟨reference, later, changes, -, hlooked⟩ := h
  · exact hnone
  · exact hlooked.calls_eq_nil hnothing

end FactIntake.Reference

namespace FactIntake.Loader

open Reference

/-- Settling a loader calls nothing but what is called while the reference of its settings is looked
up. -/
theorem create_looksUp [Codecs] (registry : Registry) (settings : Settings) (imports : Imports) :
    LooksUp registry settings.compiler imports (create registry none settings imports).1.calls := by
  unfold create
  cases hreference : settings.compiler with
  | none => exact looksUp_nil none
  | some reference =>
    have hlooked := resolve_looked registry reference imports
    simp only
    split
    · exact looksUp_nil (some reference)
    · have hcalls : ((resolve registry reference imports).1.bind fun value =>
          .succeed (Prepared.mk (Import.factoryOf registry value) settings)).calls =
            (resolve registry reference imports).1.calls := Report.bind_calls_of_silent fun _ => rfl
      simp only [hcalls]
      exact Or.inr ⟨reference, _, _, rfl, hlooked⟩

end FactIntake.Loader
