import FactIntake.Import
import FactIntake.Proofs.TabStops

/-!
Loading the modules of a dotted name. A chain is loaded up to the first module that fails; what is
loaded stays loaded, whatever comes later, and nothing is loaded twice. A chain that is loaded to its
end has all of its modules loaded, and the last of these is the module that is named.
-/

namespace FactIntake.Imports

theorem has_iff {imports : Imports} {name : String} : imports.has name = true ↔ name ∈ imports.loaded := by
  simp [has]

theorem add_loaded (imports : Imports) (parent : Option String) (name : String) :
    (imports.add parent name).loaded = imports.loaded ++ [name] := rfl

theorem has_add (imports : Imports) (parent : Option String) (name : String) :
    (imports.add parent name).has name = true :=
  has_iff.mpr (List.mem_append_right _ (List.mem_singleton_self _))

end FactIntake.Imports

namespace FactIntake.Import

variable {registry : Registry} {parent : Option String} {name : String} {names : List String}
  {imports later : Imports}

/-- The module is there to be imported, and loading it does not fail. -/
def Loadable (registry : Registry) (name : String) : Prop :=
  ∃ found, registry name = some found ∧ found.loading.outcome.result = .ok ()

theorem loadFrom_of_ok {found : Module} (place : Option Value) (hfound : registry name = some found)
    (h : found.loading.outcome.result = .ok ()) :
    loadFrom registry parent place name imports = (found.loading.report, imports.add parent name) := by
  have hreport : found.loading.report.result = .ok () := h
  simp only [loadFrom, hfound, hreport]

theorem loadFrom_of_error {found : Module} {fault : Fault} (place : Option Value)
    (hfound : registry name = some found) (h : found.loading.outcome.result = .error fault) :
    loadFrom registry parent place name imports = (found.loading.report, imports) := by
  have hreport : found.loading.report.result = .error fault := h
  simp only [loadFrom, hfound, hreport]

/-- What loading one module comes to: it is there before, or nothing is loaded because something fails,
or it is added. -/
inductive LoadsOne (registry : Registry) (parent : Option String) (name : String) (imports : Imports) :
    Report Unit × Imports → Prop
  | there (hthere : imports.has name = true) : LoadsOne registry parent name imports (.succeed (), imports)
  | failed {report : Report Unit} {fault : Fault} (hresult : report.result = .error fault) :
      LoadsOne registry parent name imports (report, imports)
  | added {report : Report Unit} (hnew : imports.has name = false) (hname : Loadable registry name)
      (hresult : report.result = .ok ()) : LoadsOne registry parent name imports (report, imports.add parent name)

/-- Where a module is looked for does not matter once it is found. -/
theorem loadsOne_loadFrom {asked : Report (Option Value)} {place : Option Value}
    (hasked : asked.result = .ok place) (hnew : imports.has name = false) :
    LoadsOne registry parent name imports
      (asked.bind fun _ => (loadFrom registry parent place name imports).1,
        (loadFrom registry parent place name imports).2) := by
  have hbind : ∀ loaded : Report Unit, (asked.bind fun _ => loaded).result = loaded.result := by
    intro loaded
    rw [Report.bind_of_ok hasked]
  cases hfound : registry name with
  | none =>
    simp only [loadFrom, hfound]
    exact .failed (hbind _)
  | some found =>
    cases hresult : found.loading.outcome.result with
    | error fault =>
      rw [loadFrom_of_error place hfound hresult]
      exact .failed ((hbind _).trans hresult)
    | ok done =>
      rw [loadFrom_of_ok place hfound hresult]
      exact .added hnew ⟨found, hfound, hresult⟩ ((hbind _).trans hresult)

theorem loadsOne_loadOne (registry : Registry) (parent : Option String) (name : String) (imports : Imports) :
    LoadsOne registry parent name imports (loadOne registry parent name imports) := by
  unfold loadOne
  cases hthere : imports.has name with
  | true => exact .there hthere
  | false =>
    simp only [Bool.false_eq_true, if_false]
    split
    · rename_i fault hasked
      exact .failed (congrArg Report.result (Report.bind_of_error hasked _))
    · rename_i place hasked
      exact loadsOne_loadFrom hasked hthere

/-- What loading named modules in turn does to the imports: nothing is unloaded, whatever is new is one of
these modules and can be loaded, and nothing is loaded twice. -/
structure Loads (registry : Registry) (names : List String) (imports later : Imports) : Prop where
  kept : imports.loaded <+: later.loaded
  fresh : ∀ name, later.has name = true → imports.has name = true ∨ name ∈ names ∧ Loadable registry name
  once : imports.loaded.Nodup → later.loaded.Nodup

theorem loads_refl (registry : Registry) (names : List String) (imports : Imports) :
    Loads registry names imports imports := ⟨List.prefix_rfl, fun _ => Or.inl, id⟩

theorem loads_add (parent : Option String) (hnew : imports.has name = false) (hname : Loadable registry name) :
    Loads registry [name] imports (imports.add parent name) := by
  have hmem : name ∉ imports.loaded := by
    rw [← Imports.has_iff, hnew]
    exact Bool.false_ne_true
  refine ⟨List.prefix_append _ _, fun other hother => ?_, fun hnodup => ?_⟩
  · rw [Imports.has_iff, Imports.add_loaded, List.mem_append, List.mem_singleton] at hother
    rcases hother with hother | rfl
    · exact Or.inl (Imports.has_iff.mpr hother)
    · exact Or.inr ⟨List.mem_singleton_self _, hname⟩
  · rw [Imports.add_loaded, List.nodup_append]
    refine ⟨hnodup, by simp, fun first hfirst other hother => ?_⟩
    obtain rfl := List.mem_singleton.mp hother
    exact ne_of_mem_of_not_mem hfirst hmem

theorem Loads.trans {more : List String} {middle : Imports} (h : Loads registry names imports middle)
    (hlater : Loads registry more middle later) : Loads registry (names ++ more) imports later := by
  refine ⟨h.kept.trans hlater.kept, fun name hname => ?_, hlater.once ∘ h.once⟩
  rcases hlater.fresh name hname with hmiddle | ⟨hmore, hloadable⟩
  · rcases h.fresh name hmiddle with hfirst | ⟨hmem, hloadable⟩
    · exact Or.inl hfirst
    · exact Or.inr ⟨List.mem_append_left _ hmem, hloadable⟩
  · exact Or.inr ⟨List.mem_append_right _ hmore, hloadable⟩

theorem Loads.has (h : Loads registry names imports later) (hname : imports.has name = true) :
    later.has name = true :=
  Imports.has_iff.mpr (h.kept.subset (Imports.has_iff.mp hname))

theorem LoadsOne.loads {report : Report Unit} (h : LoadsOne registry parent name imports (report, later)) :
    Loads registry [name] imports later := by
  cases h with
  | there hthere => exact loads_refl _ _ _
  | failed hresult => exact loads_refl _ _ _
  | added hnew hname hresult => exact loads_add parent hnew hname

/-- Behind a module that was asked for either it is there, or everything is as it was. -/
theorem LoadsOne.settles {report : Report Unit} (h : LoadsOne registry parent name imports (report, later)) :
    (report.result = .ok () ∧ later.has name = true) ∨
      ∃ fault, report.result = .error fault ∧ later = imports := by
  cases h with
  | there hthere => exact Or.inl ⟨rfl, hthere⟩
  | failed hresult => exact Or.inr ⟨_, hresult, rfl⟩
  | added hnew hname hresult =>
    exact Or.inl ⟨hresult, Imports.has_add _ _ _⟩

theorem loadChain_of_error {report : Report Unit} {fault : Fault}
    (hone : loadOne registry parent name imports = (report, later)) (hresult : report.result = .error fault) :
    loadChain registry parent (name :: names) imports = (report, later) := by
  simp only [loadChain, hone, hresult]

theorem loadChain_of_ok {report : Report Unit}
    (hone : loadOne registry parent name imports = (report, later)) (hresult : report.result = .ok ()) :
    loadChain registry parent (name :: names) imports =
      (report.bind fun _ => (loadChain registry (some name) names later).1,
        (loadChain registry (some name) names later).2) := by
  simp only [loadChain, hone, hresult]

theorem loadChain_of_has (hthere : imports.has name = true) :
    loadChain registry parent (name :: names) imports = loadChain registry (some name) names imports := by
  have hone : loadOne registry parent name imports = (.succeed (), imports) := by
    simp only [loadOne, hthere, if_true]
  rw [loadChain_of_ok hone rfl]
  simp only [Report.succeed_bind]

theorem loadChain_loads (registry : Registry) (parent : Option String) (names : List String)
    (imports : Imports) : Loads registry names imports (loadChain registry parent names imports).2 := by
  induction names generalizing parent imports with
  | nil => exact loads_refl _ _ _
  | cons name names ih =>
    have hloads := loadsOne_loadOne registry parent name imports
    cases hone : loadOne registry parent name imports with
    | mk report middle =>
      rw [hone] at hloads
      rcases hloads.settles with ⟨hresult, -⟩ | ⟨fault, hresult, rfl⟩
      · rw [loadChain_of_ok hone hresult]
        exact hloads.loads.trans (ih _ _)
      · rw [loadChain_of_error hone hresult]
        exact loads_refl _ _ _

/-- A chain that is loaded to its end has all of its modules loaded. -/
theorem loadChain_has (h : (loadChain registry parent names imports).1.result = .ok ()) :
    ∀ name ∈ names, (loadChain registry parent names imports).2.has name = true := by
  induction names generalizing parent imports with
  | nil => simp
  | cons first names ih =>
    have hloads := loadsOne_loadOne registry parent first imports
    cases hone : loadOne registry parent first imports with
    | mk report middle =>
      rw [hone] at hloads
      rcases hloads.settles with ⟨hresult, hthere⟩ | ⟨fault, hresult, rfl⟩
      · rw [loadChain_of_ok hone hresult] at h ⊢
        rw [Report.bind_of_ok hresult] at h
        intro name hname
        rcases List.mem_cons.mp hname with rfl | hname
        · exact (loadChain_loads registry (some name) names middle).has hthere
        · exact ih h name hname
      · rw [loadChain_of_error hone hresult, hresult] at h
        cases h

theorem load_loads (registry : Registry) (name : String) (imports : Imports) :
    Loads registry (chain name) imports (load registry name imports).2 := by
  unfold load
  split
  · exact loads_refl _ _ _
  · split
    · exact loads_refl _ _ _
    · exact loadChain_loads _ _ _ _

theorem load_has (h : (load registry name imports).1.result = .ok ()) :
    ∀ prior ∈ chain name, (load registry name imports).2.has prior = true := by
  unfold load at h ⊢
  split at h
  · cases h
  · split at h
    · cases h
    · rename_i hempty hpoint
      rw [if_neg hempty, if_neg hpoint]
      exact loadChain_has h

/-- The last name of a chain has all of the parts. -/
theorem mem_chainFrom (first : String) (parts : List String) :
    ".".intercalate (first :: parts) ∈ chainFrom first parts := by
  induction parts generalizing first with
  | nil =>
    rw [String.intercalate_singleton]
    exact List.mem_singleton_self first
  | cons part parts ih =>
    have hjoined : ".".intercalate (first :: part :: parts) = ".".intercalate (childName first part :: parts) := by
      cases parts with
      | nil => simp [childName, String.intercalate_cons_cons]
      | cons second later => simp [childName, String.intercalate_cons_cons, String.append_assoc]
    rw [hjoined]
    exact List.mem_cons_of_mem _ (ih _)

/-- A chain ends in the module that is named. -/
theorem mem_chain (name : String) : name ∈ chain name := by
  have hpieces : ".".intercalate (Text.pieces '.' name) = name := by
    apply String.toList_inj.mp
    simpa [Text.pieces, String.toList_intercalate, Function.comp_def] using
      Text.intercalate_splitWhere '.' name.toList
  unfold chain
  cases hparts : Text.pieces '.' name with
  | nil => simp [Text.pieces, Text.splitWhere_ne_nil] at hparts
  | cons first parts =>
    have hmem := mem_chainFrom first parts
    rwa [← hparts, hpieces] at hmem

end FactIntake.Import
