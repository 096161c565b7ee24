import FactIntake.Proofs.ReferenceFaults
import FactIntake.Proofs.SilentCalls

/-!
Imports in silence. Loading a module, and going from it along a path of attributes, comes to what it comes
to otherwise, apart from what faults of importing say; the same modules are loaded.
-/

namespace FactIntake

variable {lenient : Bool} {registry : Registry} {imports : Imports}

namespace Fault

theorem hushed_of_import {fault : Fault} (h : fault.isA "ImportError") :
    fault.hushed = .general "ImportError" [] := if_pos h

theorem hushed_of_other {fault : Fault} (h : fault.isA "ImportError" = false) :
    fault.hushed = fault := if_neg (by simp [h])

@[simp] theorem hushed_isA_import (fault : Fault) :
    fault.hushed.isA "ImportError" = fault.isA "ImportError" := by
  cases himport : fault.isA "ImportError" with
  | true =>
    rw [hushed_of_import himport]
    decide
  | false => rw [hushed_of_other himport, himport]

/-- Faults that differ at most in what they say of importing are faults of importing or the same. -/
theorem hushed_cases {fault other : Fault} (h : fault.hushed = other.hushed) :
    (fault.isA "ImportError" ∧ other.isA "ImportError") ∨ fault = other := by
  have hclass : fault.isA "ImportError" = other.isA "ImportError" := by
    rw [← hushed_isA_import fault, h, hushed_isA_import]
  cases himport : fault.isA "ImportError" with
  | true => exact Or.inl ⟨rfl, hclass.symm.trans himport⟩
  | false =>
    have hother : other.isA "ImportError" = false := hclass.symm.trans himport
    rw [hushed_of_other himport, hushed_of_other hother] at h
    exact Or.inr h

/-- The absence of an attribute is not taken for a fault of importing. -/
theorem not_attribute_of_import {fault : Fault} (h : fault.isA "ImportError") :
    fault.isA "AttributeError" = false := not_isA_of_apart (by decide) h

end Fault

namespace Report

/-- A report with another fault. -/
def amended (amend : Fault → Fault) (report : Report α) : Report α :=
  { report with result := report.result.mapError amend }

theorem muted_amended (view : α → β) (amend : Fault → Fault) (report : Report α) :
    (report.amended amend).muted view = (report.muted view).amended amend := by
  unfold muted amended
  cases report.result <;> rfl

/-- Reports that are told alike have the same value, or faults that are told alike. -/
theorem told_cases {tell : Fault → Fault} {report other : Report α}
    (h : report.told tell = other.told tell) :
    (∃ value, report.result = .ok value ∧ other.result = .ok value) ∨
      ∃ fault why, report.result = .error fault ∧ other.result = .error why ∧
        tell fault = tell why := by
  have hresult : report.result.mapError tell = other.result.mapError tell := congrArg Report.result h
  cases hreport : report.result with
  | ok value =>
    cases hother : other.result with
    | ok found =>
      rw [hreport, hother] at hresult
      exact Or.inl ⟨value, rfl, congrArg _ (Except.ok.inj hresult).symm⟩
    | error why =>
      rw [hreport, hother] at hresult
      simp at hresult
  | error fault =>
    cases hother : other.result with
    | ok found =>
      rw [hreport, hother] at hresult
      simp at hresult
    | error why =>
      rw [hreport, hother] at hresult
      exact Or.inr ⟨fault, why, rfl, rfl, Except.error.inj hresult⟩

theorem told_of_parts {tell : Fault → Fault} {report other : Report α}
    (hresult : report.result.mapError tell = other.result.mapError tell)
    (hcalls : report.calls = other.calls) (hchanges : report.changes = other.changes) :
    report.told tell = other.told tell := by
  unfold told
  rw [hresult, hcalls, hchanges]

theorem told_calls {tell : Fault → Fault} {report other : Report α}
    (h : report.told tell = other.told tell) : report.calls = other.calls := by
  have hcalls : (report.told tell).calls = (other.told tell).calls := congrArg Report.calls h
  exact hcalls

theorem told_changes {tell : Fault → Fault} {report other : Report α}
    (h : report.told tell = other.told tell) : report.changes = other.changes := by
  have hchanges : (report.told tell).changes = (other.told tell).changes := congrArg Report.changes h
  exact hchanges

theorem told_amended (tell amend : Fault → Fault) (report : Report α) :
    (report.amended amend).told tell = report.told (tell ∘ amend) := by
  unfold told amended
  cases report.result <;> rfl

/-- Reports that are told alike are told alike with less said. -/
theorem told_of_told {tell less : Fault → Fault} {report other : Report α}
    (hless : ∀ fault why, tell fault = tell why → less fault = less why)
    (h : report.told tell = other.told tell) : report.told less = other.told less := by
  refine told_of_parts ?_ (told_calls h) (told_changes h)
  rcases told_cases h with ⟨value, hreport, hother⟩ | ⟨fault, why, hreport, hother, htell⟩
  · rw [hreport, hother]
  · rw [hreport, hother]
    simp only [Results.mapError_error, hless fault why htell]

/-- What follows is told alike if what comes first is. -/
theorem told_muted_bind {tell : Fault → Fault} {report : Report α} {view : α → γ} {lens : β → δ}
    {silent : Report γ} {next : α → Report β} {later : γ → Report δ}
    (h : silent.told tell = (report.muted view).told tell)
    (hnext : ∀ value, (later (view value)).told tell = ((next value).muted lens).told tell) :
    (silent.bind later).told tell = ((report.bind next).muted lens).told tell := by
  rw [told_bind, h]
  cases hresult : report.result with
  | error fault =>
    have htold : ((report.muted view).told tell).result = .error (tell fault) := by
      rw [told, muted, hresult]
      rfl
    rw [bind_of_error htold, bind_of_error hresult]
    rfl
  | ok value =>
    have htold : ((report.muted view).told tell).result = .ok (view value) := by
      rw [told, muted, hresult]
      rfl
    rw [bind_of_ok htold, bind_of_ok hresult, hnext]
    rfl

theorem muted_id_result (report : Report α) : (report.muted id).result = report.result := by
  unfold muted
  simp only [Except.map_id, id]

theorem muted_id_bind (report : Report α) (next : α → Report β) :
    (report.bind next).muted id = (report.muted id).bind fun value => (next value).muted id := by
  apply muted_bind
  intro value
  rfl

theorem muted_after (events : List Event) (report : Report α) :
    (report.after events).muted id = report.muted id := rfl

theorem told_muted_id (tell : Fault → Fault) (report : Report α) :
    (report.muted id).told tell = report.told tell := by
  unfold told
  rw [muted_id_result]
  rfl

end Report

namespace Import

/-- An attribute whose absence is guarded is the same in silence. -/
theorem guarded_hushed (absent : Fault → Fault) (value : Value) (attr : String) :
    ((attributeOf (registry.silent lenient) imports (value.silent lenient) attr).amended
        (Reference.told absent)).told Fault.hushed =
      (((attributeOf registry imports value attr).amended (Reference.told absent)).muted
        (Value.silent lenient)).told Fault.hushed := by
  rw [Report.muted_amended, Report.told_amended, Report.told_amended]
  apply Report.told_of_told _ (attributeOf_hushed value attr)
  intro fault why h
  rcases Fault.hushed_cases h with ⟨hfault, hwhy⟩ | rfl
  · simpa [Reference.told, Fault.not_attribute_of_import hfault, Fault.not_attribute_of_import hwhy]
      using h
  · rfl

theorem guarded_of_ok {report : Report α} {value : α} (h : report.result = .ok value)
    (absent : Fault → Fault) : report.amended (Reference.told absent) = report := by
  cases report with
  | mk result calls events changes =>
    simp only at h
    subst h
    rfl

theorem guarded_of_error {report : Report α} {fault : Fault} (h : report.result = .error fault)
    (absent : Fault → Fault) : report.amended (Reference.told absent) =
      if fault.isA "AttributeError" then { report with result := .error (absent fault) } else report := by
  cases report with
  | mk result calls events changes =>
    simp only at h
    subst h
    simp only [Report.amended, Results.mapError_error, Reference.told]
    split <;> rfl

theorem childrenOf_eq (parent name : String) : childrenOf registry imports parent name =
    (attributeOf registry imports (.module parent) childrenPath).amended
      (Reference.told fun _ => noPackage name parent) := by
  unfold childrenOf
  simp only
  split
  · exact (guarded_of_ok ‹_› _).symm
  · exact (guarded_of_error ‹_› fun _ => noPackage name parent).symm

theorem childrenOf_hushed (parent name : String) :
    (childrenOf (registry.silent lenient) imports parent name).told Fault.hushed =
      ((childrenOf registry imports parent name).muted (Value.silent lenient)).told Fault.hushed := by
  rw [childrenOf_eq, childrenOf_eq]
  exact guarded_hushed _ (.module parent) childrenPath

theorem notFoundIn_silent (place : Option Value) (name : String) :
    notFoundIn (place.map (Value.silent lenient)) name = notFoundIn place name := by
  cases place with
  | none => rfl
  | some place =>
    cases place with
    | defined definition => simp [notFoundIn, Value.silent, Value.className]
    | _ => rfl

/-- Modules are loaded in silence as they are otherwise. -/
structure SameLoading (silent loading : Report Unit × Imports) : Prop where
  report : silent.1.told Fault.hushed = loading.1.told Fault.hushed
  imports : silent.2 = loading.2

theorem sameLoading_rfl (loading : Report Unit × Imports) : SameLoading loading loading := ⟨rfl, rfl⟩

theorem loadFrom_silent (parent : Option String) (place : Option Value) (name : String) :
    SameLoading
      (loadFrom (registry.silent lenient) parent (place.map (Value.silent lenient)) name imports)
      (loadFrom registry parent place name imports) := by
  have hfound : (registry.silent lenient) name = (registry name).map (Module.silent lenient) := rfl
  unfold loadFrom
  rw [hfound]
  cases registry name with
  | none =>
    simp only [Option.map_none, notFoundIn_silent]
    exact sameLoading_rfl _
  | some found =>
    simp only [Option.map_some, Module.silent, Loading.report, Loading.silent]
    cases hresult : found.loading.outcome.result with
    | ok loaded => exact ⟨rfl, rfl⟩
    | error raised =>
      refine ⟨?_, rfl⟩
      simp [Report.told, Results.mapError_error]

/-- The place of a module, which its parent is asked for. -/
def placeOf (registry : Registry) (imports : Imports) (parent : Option String) (name : String) :
    Report (Option Value) :=
  match parent with
  | some parent => (childrenOf registry imports parent name).bind (.succeed <| some ·)
  | none => .succeed none

theorem placeOf_hushed (parent : Option String) (name : String) :
    (placeOf (registry.silent lenient) imports parent name).told Fault.hushed =
      ((placeOf registry imports parent name).muted
        (Option.map (Value.silent lenient))).told Fault.hushed := by
  cases parent with
  | none => rfl
  | some parent =>
    apply Report.told_muted_bind (childrenOf_hushed parent name)
    intro place
    rfl

theorem loadOne_eq (parent : Option String) (name : String) (h : imports.has name = false) :
    loadOne registry parent name imports =
      match (placeOf registry imports parent name).result with
      | .error _ => ((placeOf registry imports parent name).bind fun _ => .succeed (), imports)
      | .ok place => ((placeOf registry imports parent name).bind fun _ =>
          (loadFrom registry parent place name imports).1,
          (loadFrom registry parent place name imports).2) := by
  unfold loadOne
  rw [if_neg (by simp [h])]
  rfl

theorem loadOne_silent (parent : Option String) (name : String) :
    SameLoading (loadOne (registry.silent lenient) parent name imports)
      (loadOne registry parent name imports) := by
  cases hhas : imports.has name with
  | true =>
    simp only [loadOne, hhas, if_true]
    exact sameLoading_rfl _
  | false =>
    have hasked : (placeOf (registry.silent lenient) imports parent name).told Fault.hushed =
        ((placeOf registry imports parent name).muted
          (Option.map (Value.silent lenient))).told Fault.hushed := placeOf_hushed parent name
    have hbind : ∀ {loaded other : Report Unit}, other.told Fault.hushed = loaded.told Fault.hushed →
        ((placeOf (registry.silent lenient) imports parent name).bind fun _ => other).told
            Fault.hushed =
          ((placeOf registry imports parent name).bind fun _ => loaded).told Fault.hushed := by
      intro loaded other hloaded
      have hmuted : ((placeOf (registry.silent lenient) imports parent name).bind fun _ => other).told
            Fault.hushed =
          (((placeOf registry imports parent name).bind fun _ => loaded).muted id).told
            Fault.hushed := by
        apply Report.told_muted_bind hasked
        intro place
        rw [Report.told_muted_id, hloaded]
      exact hmuted.trans (Report.told_muted_id _ _)
    rw [loadOne_eq parent name hhas, loadOne_eq parent name hhas]
    cases hplace : (placeOf registry imports parent name).result with
    | error fault =>
      have hmuted : ((placeOf registry imports parent name).muted
          (Option.map (Value.silent lenient))).result = .error fault := by
        rw [Report.muted, hplace]
        rfl
      rcases Report.told_cases hasked with ⟨place, -, hother⟩ | ⟨why, other, hwhy, -, -⟩
      · rw [hmuted] at hother
        cases hother
      · rw [hwhy]
        exact ⟨hbind rfl, rfl⟩
    | ok place =>
      have hmuted : ((placeOf registry imports parent name).muted
          (Option.map (Value.silent lenient))).result = .ok (place.map (Value.silent lenient)) := by
        rw [Report.muted, hplace]
        rfl
      rcases Report.told_cases hasked with ⟨found, hfound, hother⟩ | ⟨why, other, -, hother, -⟩
      · rw [hmuted] at hother
        obtain rfl := Except.ok.inj hother
        have hloaded : SameLoading (loadFrom (registry.silent lenient) parent
            (place.map (Value.silent lenient)) name imports)
            (loadFrom registry parent place name imports) := loadFrom_silent parent place name
        rw [hfound]
        exact ⟨hbind hloaded.report, hloaded.imports⟩
      · rw [hmuted] at hother
        cases hother

/-- The chain is loaded up to the same module, which fails alike if it does. -/
theorem loadChain_silent (parent : Option String) (names : List String) :
    SameLoading (loadChain (registry.silent lenient) parent names imports)
      (loadChain registry parent names imports) := by
  induction names generalizing parent imports with
  | nil => exact sameLoading_rfl _
  | cons name names ih =>
    have hone : SameLoading (loadOne (registry.silent lenient) parent name imports)
        (loadOne registry parent name imports) := loadOne_silent parent name
    simp only [loadChain]
    -- The first module fails on both sides or on neither; the rest is loaded from the same imports.
    rcases Report.told_cases hone.report with
      ⟨⟨⟩, hsilent, hloaded⟩ | ⟨fault, why, hsilent, hloaded, -⟩
    · rw [hsilent, hloaded]
      simp only [hone.imports]
      have hlater : SameLoading
          (loadChain (registry.silent lenient) (some name) names (loadOne registry parent name imports).2)
          (loadChain registry (some name) names (loadOne registry parent name imports).2) :=
        ih (some name)
      refine ⟨?_, hlater.imports⟩
      simp only [Report.told_bind, hone.report, hlater.report]
    · rw [hsilent, hloaded]
      exact hone

theorem load_silent (name : String) :
    SameLoading (load (registry.silent lenient) name imports) (load registry name imports) := by
  unfold load
  split
  · exact sameLoading_rfl _
  · split
    · exact sameLoading_rfl _
    · exact loadChain_silent none _

end Import

namespace Reference

open Import

theorem step_eq (absent : Fault → Fault) (value : Import.Value) (attr : String) :
    step registry imports absent value attr =
      (attributeOf registry imports value attr).amended (told absent) := by
  unfold step
  simp only
  split
  · exact (guarded_of_ok ‹_› absent).symm
  · exact (guarded_of_error ‹_› absent).symm

theorem walk_hushed (absent : Fault → Fault) (value : Import.Value) (path : List String) :
    (walk (registry.silent lenient) imports absent (value.silent lenient) path).told Fault.hushed =
      ((walk registry imports absent value path).muted (Value.silent lenient)).told Fault.hushed := by
  induction path generalizing value with
  | nil => rfl
  | cons attr path ih =>
    simp only [walk, step_eq]
    exact Report.told_muted_bind (guarded_hushed absent value attr) ih

/-- The path of a reference leads to the same value in silence. -/
theorem pick_hushed (reference : String) (parts : Parts) :
    (pick (registry.silent lenient) reference parts imports).told Fault.hushed =
      ((pick registry reference parts imports).muted (Value.silent lenient)).told Fault.hushed := by
  apply Report.told_muted_bind (walk_hushed (notFound reference parts.moduleName)
    (.module parts.moduleName) (Text.pieces '.' parts.path))
  intro value
  rw [isCallable_silent]
  split <;> rfl

end Reference

end FactIntake
