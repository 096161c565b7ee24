import FactIntake.Proofs.Lineage
import FactIntake.Proofs.Settling

/-!
What goes wrong with a reference, and what is told of it. A reference that is malformed, leads to no
attribute or leads to nothing that can be called is told with the setting and in its own words. Importing
its module is guarded against faults of importing alone, and these are told with the name of the module;
going to an attribute is guarded against its absence alone. Every other fault comes out as it is.
-/

namespace FactIntake.Text

theorem stripChars_infix (cs : List Char) : stripChars cs <:+: cs := by
  have hsuffix : cs.dropWhile isBlank <:+ cs := List.dropWhile_suffix _
  have hprefix : stripChars cs <+: cs.dropWhile isBlank := by
    rw [← List.reverse_suffix, stripChars, dropTrailing, List.reverse_reverse]
    exact List.dropWhile_suffix _
  exact hprefix.isInfix.trans hsuffix.isInfix

end FactIntake.Text

namespace FactIntake.Reference

open Import

variable {registry : Registry} {reference : String} {imports : Imports}

theorem takeWhile_append_mark {mark : Char} {cs : List Char} (h : mark ∈ cs) :
    cs = cs.takeWhile (· != mark) ++ mark :: (cs.dropWhile (· != mark)).drop 1 := by
  induction cs with
  | nil => simp at h
  | cons c cs ih =>
    by_cases hc : c = mark
    · subst hc
      simp
    · have hmark : mark ∈ cs := (List.mem_cons.mp h).resolve_left (Ne.symm hc)
      have hne : (c != mark) = true := by simpa using hc
      simpa [List.takeWhile_cons, List.dropWhile_cons, hne] using ih hmark

theorem splitFirst?_eq_some {mark : Char} {cs before after : List Char}
    (h : splitFirst? mark cs = some (before, after)) : cs = before ++ mark :: after := by
  unfold splitFirst? at h
  split at h
  · rename_i hmark
    obtain ⟨rfl, rfl⟩ := Prod.mk.inj (Option.some.inj h)
    exact takeWhile_append_mark (by simpa using hmark)
  · simp at h

theorem splitLast?_eq_some {mark : Char} {cs before after : List Char}
    (h : splitLast? mark cs = some (before, after)) : cs = before ++ mark :: after := by
  obtain ⟨⟨last, first⟩, hsplit, hparts⟩ := Option.map_eq_some_iff.mp h
  obtain ⟨rfl, rfl⟩ := Prod.mk.inj hparts
  have hreverse := splitFirst?_eq_some hsplit
  rw [← List.reverse_reverse cs, hreverse]
  simp

/-- A mark stands between the parts of a reference. -/
theorem split_spec (hmodule : (split reference).moduleName ≠ "") :
    ∃ mark ∈ [':', '.'], Text.stripChars reference.toList =
      (split reference).moduleName.toList ++ mark :: (split reference).path.toList := by
  unfold split at hmodule ⊢
  simp only at hmodule ⊢
  cases hcolon : splitFirst? ':' (Text.stripChars reference.toList) with
  | some parts =>
    obtain ⟨moduleName, path⟩ := parts
    exact ⟨':', by simp, by simpa [hcolon] using splitFirst?_eq_some hcolon⟩
  | none =>
    cases hpoint : splitLast? '.' (Text.stripChars reference.toList) with
    | some parts =>
      obtain ⟨moduleName, path⟩ := parts
      exact ⟨'.', by simp, by simpa [hcolon, hpoint] using splitLast?_eq_some hpoint⟩
    | none => simp [hcolon, hpoint] at hmodule

/-- A fault is told of the setting of the compiler. -/
def OfSetting (fault : Fault) : Prop :=
  ∃ message, fault.bare = .misconfigured message (some Environment.compilerVariable)

/-- A fault is told of the setting of the compiler, and names the reference. -/
structure Explains (reference : String) (fault : Fault) : Prop where
  ofSetting : OfSetting fault
  named : reference.toList <:+: fault.message.toList

theorem invalidSetting_message (message : String) :
    (invalidSetting message).message = message ++ " (setting FACTS_COMPILER)" := by
  simp [invalidSetting, Fault.misconfiguredWith, Fault.settingText, Fault.message,
    Environment.compilerVariable, String.append_assoc]

theorem ofSetting_invalidSetting (message : String) : OfSetting (invalidSetting message) := ⟨_, rfl⟩

theorem OfSetting.caused {fault cause : Fault} (h : OfSetting fault) :
    OfSetting (.caused fault cause) := h

/-- What is told in words around the reference explains it. -/
theorem explains_of_words {before after message : String}
    (h : message = before ++ reference ++ after) : Explains reference (invalidSetting message) := by
  refine ⟨ofSetting_invalidSetting _, before.toList,
    after.toList ++ " (setting FACTS_COMPILER)".toList, ?_⟩
  rw [invalidSetting_message, h]
  simp

theorem Explains.caused {fault cause : Fault} (h : Explains reference fault) :
    Explains reference (.caused fault cause) := ⟨h.ofSetting.caused, h.named⟩

theorem explains_malformed (reference : String) : Explains reference (malformed reference) :=
  explains_of_words rfl

theorem explains_notCallable (reference : String) : Explains reference (notCallable reference) :=
  explains_of_words rfl

theorem explains_notFound (reference moduleName : String) (why : Fault) :
    Explains reference (notFound reference moduleName why) := by
  have hwords : "Compiler '" ++ reference ++ "' not found in module '" ++ moduleName ++ "'" =
      "Compiler '" ++ reference ++ ("' not found in module '" ++ moduleName ++ "'") := by
    simp [String.append_assoc]
  exact (explains_of_words hwords).caused

/-- What is told of a module that cannot be imported does not name the reference: there is a mark in that
which only the name of the module could have, and the name has one less. -/
theorem not_named_notImported (why : Fault) (hmodule : (split reference).moduleName ≠ "") :
    ¬ reference.toList <:+:
      (notImported (split reference).moduleName why).fault.message.toList := by
  intro hnamed
  obtain ⟨mark, hmark, hsplit⟩ := split_spec hmodule
  have hmessage : (notImported (split reference).moduleName why).fault.message.toList =
      "Compiler module '".toList ++ (split reference).moduleName.toList ++
        "' could not be imported (setting FACTS_COMPILER)".toList := by
    have hwords : (notImported (split reference).moduleName why).fault.message =
        (invalidSetting ("Compiler module '" ++ (split reference).moduleName ++
          "' could not be imported")).message := rfl
    rw [hwords, invalidSetting_message]
    simp
  have hfixed : "Compiler module '".toList.count mark = 0 ∧
      "' could not be imported (setting FACTS_COMPILER)".toList.count mark = 0 := by
    obtain rfl | rfl : mark = ':' ∨ mark = '.' := by simpa using hmark
    · exact ⟨by decide, by decide⟩
    · exact ⟨by decide, by decide⟩
  have hcount := ((Text.stripChars_infix _).trans hnamed).sublist.count_le mark
  rw [hmessage, hsplit, List.count_append, List.count_append, List.count_append,
    List.count_cons_self, hfixed.1, hfixed.2] at hcount
  omega

/-- Both parts of a reference are there. -/
def WellFormed (reference : String) : Prop :=
  (split reference).moduleName ≠ "" ∧ (split reference).path ≠ ""

instance : Decidable (WellFormed reference) := inferInstanceAs (Decidable (_ ∧ _))

/-- Loading the module of a reference, and what is imported then. -/
def loaded (registry : Registry) (reference : String) (imports : Imports) : Report Unit × Imports :=
  load registry (split reference).moduleName imports

/-- The value at the end of a path of attributes, or the first fault on the way. -/
def follow (registry : Registry) (imports : Imports) :
    Import.Value → List String → Except Fault Import.Value
  | value, [] => .ok value
  | value, attr :: path =>
    match (attributeOf registry imports value attr).result with
    | .ok next => follow registry imports next path
    | .error why => .error why

/-- The value that a reference leads to once its module is loaded. -/
def led (registry : Registry) (reference : String) (imports : Imports) : Except Fault Import.Value :=
  follow registry (loaded registry reference imports).2 (.module (split reference).moduleName)
    (Text.pieces '.' (split reference).path)

/-- What a fault on a path is told as. -/
def told (absent : Fault → Fault) (why : Fault) : Fault :=
  if why.isA "AttributeError" then absent why else why

theorem step_result (registry : Registry) (imports : Imports) (absent : Fault → Fault)
    (value : Import.Value) (attr : String) :
    (step registry imports absent value attr).result =
      (attributeOf registry imports value attr).result.mapError (told absent) := by
  unfold step
  simp only
  split
  · rename_i next hnext
    rw [hnext]
    rfl
  · rename_i why hwhy
    rw [hwhy, Results.mapError_error, told]
    split
    · rfl
    · exact hwhy

theorem walk_result (registry : Registry) (imports : Imports) (absent : Fault → Fault)
    (value : Import.Value) (path : List String) :
    (walk registry imports absent value path).result =
      (follow registry imports value path).mapError (told absent) := by
  induction path generalizing value with
  | nil => rfl
  | cons attr path ih =>
    have hstep := step_result registry imports absent value attr
    unfold walk follow
    cases hasked : (attributeOf registry imports value attr).result with
    | ok next =>
      rw [hasked] at hstep
      rw [Report.bind_of_ok hstep]
      exact ih next
    | error why =>
      rw [hasked] at hstep
      rw [Report.bind_of_error hstep]
      rfl

/-- What importing tells of a fault on loading the module of a reference. -/
def toldOfModule (moduleName : String) (why : Fault) : Fault :=
  if why.isA "ImportError" then (notImported moduleName why).fault else why

theorem importModule_result (moduleName : String) :
    (importModule registry moduleName imports).1.result =
      (load registry moduleName imports).1.result.mapError (toldOfModule moduleName) := by
  unfold importModule
  simp only
  split
  · rename_i hdone
    rw [hdone]
    rfl
  · rename_i why hwhy
    rw [hwhy, Results.mapError_error, toldOfModule]
    split
    · rfl
    · exact hwhy

theorem importModule_imports (moduleName : String) :
    (importModule registry moduleName imports).2 = (load registry moduleName imports).2 := by
  unfold importModule
  cases hresult : (load registry moduleName imports).1.result with
  | ok done => simp only [hresult]
  | error why =>
    simp only [hresult]
    split <;> rfl

/-- A reference is refused as it stands, or its module is imported and the path behind it is followed. -/
theorem resolve_cases (registry : Registry) (reference : String) :
    (∀ imports, resolve registry reference imports = (.fail (malformed reference), imports)) ∨
      ∀ imports, resolve registry reference imports =
        ((importModule registry (split reference).moduleName imports).1.bind fun _ =>
            pick registry reference (split reference)
              (importModule registry (split reference).moduleName imports).2,
          (importModule registry (split reference).moduleName imports).2) := by
  cases hparts : (split reference).moduleName.isEmpty || (split reference).path.isEmpty with
  | true =>
    left
    intro imports
    simp only [resolve, hparts, if_true]
  | false =>
    right
    intro imports
    simp only [resolve, hparts, Bool.false_eq_true, if_false]

theorem resolve_of_malformed (h : ¬ WellFormed reference) :
    (resolve registry reference imports).1.result = .error (malformed reference) := by
  have hempty : ((split reference).moduleName.isEmpty || (split reference).path.isEmpty) = true := by
    simp only [Bool.or_eq_true, String.isEmpty_iff]
    by_cases hmodule : (split reference).moduleName = ""
    · exact Or.inl hmodule
    · by_cases hpath : (split reference).path = ""
      · exact Or.inr hpath
      · exact absurd ⟨hmodule, hpath⟩ h
  simp only [resolve, hempty, if_true, Report.fail]

theorem resolve_of_wellFormed (h : WellFormed reference) :
    (resolve registry reference imports).1 =
      (importModule registry (split reference).moduleName imports).1.bind fun _ =>
        pick registry reference (split reference) (loaded registry reference imports).2 := by
  have hparts : ((split reference).moduleName.isEmpty || (split reference).path.isEmpty) = false := by
    obtain ⟨hmodule, hpath⟩ := h
    simp [hmodule, hpath]
  unfold resolve loaded
  simp only [hparts, Bool.false_eq_true, if_false, importModule_imports]

theorem resolve_of_unloaded {why : Fault} (h : WellFormed reference)
    (hload : (loaded registry reference imports).1.result = .error why) :
    (resolve registry reference imports).1.result =
      .error (toldOfModule (split reference).moduleName why) := by
  have himport : (importModule registry (split reference).moduleName imports).1.result =
      .error (toldOfModule (split reference).moduleName why) := by
    unfold loaded at hload
    rw [importModule_result, hload]
    rfl
  rw [resolve_of_wellFormed h, Report.bind_of_error himport]

theorem resolve_of_loaded (h : WellFormed reference)
    (hload : (loaded registry reference imports).1.result = .ok ()) :
    (resolve registry reference imports).1.result =
      (pick registry reference (split reference) (loaded registry reference imports).2).result := by
  have himport : (importModule registry (split reference).moduleName imports).1.result = .ok () := by
    unfold loaded at hload
    rw [importModule_result, hload]
    rfl
  rw [resolve_of_wellFormed h, Report.bind_of_ok himport]

theorem pick_of_led {value : Import.Value} (hled : led registry reference imports = .ok value) :
    (pick registry reference (split reference) (loaded registry reference imports).2).result =
      if isCallable value then .ok value else .error (notCallable reference) := by
  have hwalk := walk_result registry (loaded registry reference imports).2
    (notFound reference (split reference).moduleName) (.module (split reference).moduleName)
    (Text.pieces '.' (split reference).path)
  rw [show follow registry _ _ _ = Except.ok value from hled] at hwalk
  unfold pick
  rw [Report.bind_eq, Report.bind_of_ok hwalk]
  split <;> rfl

theorem pick_of_not_led {why : Fault} (hled : led registry reference imports = .error why) :
    (pick registry reference (split reference) (loaded registry reference imports).2).result =
      .error (told (notFound reference (split reference).moduleName) why) := by
  have hwalk := walk_result registry (loaded registry reference imports).2
    (notFound reference (split reference).moduleName) (.module (split reference).moduleName)
    (Text.pieces '.' (split reference).path)
  rw [show follow registry _ _ _ = Except.error why from hled] at hwalk
  unfold pick
  rw [Report.bind_eq, Report.bind_of_error hwalk]

/-- A reference comes to something that can be called, or to a fault that explains it. -/
structure Settles (registry : Registry) (reference : String) (imports : Imports) : Prop where
  callable : ∀ value, (resolve registry reference imports).1.result = .ok value →
    isCallable value = true
  explained : ∀ fault, (resolve registry reference imports).1.result = .error fault →
    Explains reference fault

theorem settles_of_ok {value : Import.Value} (hcallable : isCallable value = true)
    (h : (resolve registry reference imports).1.result = .ok value) :
    Settles registry reference imports := by
  constructor
  · intro other hother
    obtain rfl := Except.ok.inj (h.symm.trans hother)
    exact hcallable
  · intro fault hfault
    simp [h] at hfault

theorem settles_of_error {fault : Fault} (hexplains : Explains reference fault)
    (h : (resolve registry reference imports).1.result = .error fault) :
    Settles registry reference imports := by
  constructor
  · intro value hvalue
    simp [h] at hvalue
  · intro other hother
    obtain rfl := Except.error.inj (h.symm.trans hother)
    exact hexplains

/-- A fault that is not told as one of the reference: one of loading its module, or one on the path
behind that which is not the absence of an attribute. -/
inductive Escapes (registry : Registry) (reference : String) (imports : Imports) : Fault → Prop
  | loading {why : Fault} (hparts : WellFormed reference)
      (hload : (loaded registry reference imports).1.result = .error why) :
      Escapes registry reference imports why
  | asking {why : Fault} (hparts : WellFormed reference)
      (hload : (loaded registry reference imports).1.result = .ok ())
      (hled : led registry reference imports = .error why)
      (hother : why.isA "AttributeError" = false) : Escapes registry reference imports why

/-- What comes out for such a fault: the fault itself, unless importing is what failed. -/
theorem resolve_of_escapes {why : Fault} (h : Escapes registry reference imports why) :
    (resolve registry reference imports).1.result = .error why ∨
      why.isA "ImportError" = true ∧ (resolve registry reference imports).1.result =
        .error (notImported (split reference).moduleName why).fault := by
  cases h with
  | loading hparts hload =>
    have hresult := resolve_of_unloaded hparts hload
    by_cases himport : why.isA "ImportError" = true
    · right
      rw [toldOfModule, if_pos himport] at hresult
      exact ⟨himport, hresult⟩
    · left
      rwa [toldOfModule, if_neg himport] at hresult
  | asking hparts hload hled hother =>
    left
    rw [resolve_of_loaded hparts hload, pick_of_not_led hled, told, hother]
    rfl

/-- Nothing else keeps a reference from being explained. -/
theorem settles_of_not_escapes (h : ∀ why, ¬ Escapes registry reference imports why) :
    Settles registry reference imports := by
  by_cases hparts : WellFormed reference
  · cases hload : (loaded registry reference imports).1.result with
    | error why => exact absurd (.loading hparts hload) (h why)
    | ok done =>
      have hresult := resolve_of_loaded hparts hload
      cases hled : led registry reference imports with
      | ok value =>
        rw [pick_of_led hled] at hresult
        by_cases hcallable : isCallable value = true
        · rw [if_pos hcallable] at hresult
          exact settles_of_ok hcallable hresult
        · rw [if_neg hcallable] at hresult
          exact settles_of_error (explains_notCallable reference) hresult
      | error why =>
        have habsent : why.isA "AttributeError" = true := by
          cases hclass : why.isA "AttributeError" with
          | true => rfl
          | false => exact absurd (.asking hparts hload hled hclass) (h why)
        rw [pick_of_not_led hled, told, if_pos habsent] at hresult
        exact settles_of_error (explains_notFound _ _ _) hresult
  · exact settles_of_error (explains_malformed reference) (resolve_of_malformed hparts)

/-- A fault of importing explains no reference by itself. -/
theorem Explains.not_importing {fault : Fault} (h : Explains reference fault) :
    fault.isA "ImportError" = false := by
  obtain ⟨message, hbare⟩ := h.ofSetting
  rw [← Fault.isA_bare, hbare]
  exact (by decide : Fault.isKindOf "ConfigurationError" "ImportError" = false)

theorem Escapes.wellFormed {why : Fault} (h : Escapes registry reference imports why) :
    WellFormed reference := by
  cases h with
  | loading hparts => exact hparts
  | asking hparts => exact hparts

theorem not_settles_of_notImported {why : Fault} (hparts : WellFormed reference)
    (hresult : (resolve registry reference imports).1.result =
      .error (notImported (split reference).moduleName why).fault) :
    ¬ Settles registry reference imports := by
  intro hsettles
  exact not_named_notImported why hparts.1 (hsettles.explained _ hresult).named

/-- A fault that escapes is one that would have to explain the reference by itself. -/
theorem settles_iff : Settles registry reference imports ↔
    ∀ why, Escapes registry reference imports why → Explains reference why := by
  constructor
  · intro hsettles why hescapes
    obtain hresult | ⟨-, hresult⟩ := resolve_of_escapes hescapes
    · exact hsettles.explained why hresult
    · exact absurd hsettles (not_settles_of_notImported hescapes.wellFormed hresult)
  · intro hexplains
    by_cases hescapes : ∃ why, Escapes registry reference imports why
    · obtain ⟨why, hwhy⟩ := hescapes
      have hexplained := hexplains why hwhy
      obtain hresult | ⟨himport, -⟩ := resolve_of_escapes hwhy
      · exact settles_of_error hexplained hresult
      · simp [hexplained.not_importing] at himport
    · exact settles_of_not_escapes fun why hwhy => hescapes ⟨why, hwhy⟩

/-- Importing is not asked for from within a package. -/
theorem load_relative (registry : Registry) (imports : Imports) {name : String}
    (hname : name.toList.head? = some '.') :
    (load registry name imports).1.result = .error (Fault.typeFault
      ("the 'package' argument is required to perform a relative import for " ++
        Text.quoted name)) := by
  have hempty : name.isEmpty = false := by
    by_cases hnil : name = ""
    · simp [hnil] at hname
    · simpa using hnil
  simp only [load, hempty, hname, beq_self_eq_true, Bool.false_eq_true, if_false, if_true, Report.fail]

/-- Whatever can be imported, a reference to a module whose name starts with a point is not explained. -/
theorem not_settles_of_relative (hparts : WellFormed reference)
    (hname : (split reference).moduleName.toList.head? = some '.') :
    ¬ Settles registry reference imports := by
  intro hsettles
  have hload := load_relative registry imports hname
  rw [← loaded] at hload
  have hexplains := settles_iff.mp hsettles _ (.loading hparts hload)
  obtain ⟨message, hbare⟩ := hexplains.ofSetting
  simp [Fault.typeFault, Fault.bare] at hbare

/-- A reference comes to something that can be called or to a fault that explains it, unless a fault
escapes that does not explain it already. The fault that escapes comes out as it is, or as the cause of a
fault of the setting in which the reference is not named. -/
theorem resolve_settles_iff (registry : Registry) (reference : String) (imports : Imports) :
    (Settles registry reference imports ↔
      ∀ why, Escapes registry reference imports why → Explains reference why) ∧
    ∀ why, Escapes registry reference imports why →
      (resolve registry reference imports).1.result = .error why ∨
      why.isA "ImportError" = true ∧ ∃ fault,
        (resolve registry reference imports).1.result = .error fault ∧ OfSetting fault ∧
        fault.cause? = some why ∧ ¬ reference.toList <:+: fault.message.toList := by
  refine ⟨settles_iff, fun why hescapes => ?_⟩
  obtain hresult | ⟨himport, hresult⟩ := resolve_of_escapes hescapes
  · exact Or.inl hresult
  · refine Or.inr ⟨himport, _, hresult, (ofSetting_invalidSetting _).caused, rfl, ?_⟩
    exact not_named_notImported why hescapes.wellFormed.1

/-- A module that raises a fault, and one that raises it for an attribute that it lacks. -/
def scarce : Registry
  | "fx" => some ⟨false, [], ⟨[], .fail (Fault.valueFault "no grammar")⟩⟩
  | "fz" => some ⟨false, [("__getattr__", ⟨"function", none, [],
      some ⟨fun _ => .fail (Fault.valueFault "no grammar")⟩⟩)], .quiet⟩
  | _ => none

/-- The faults of the modules come out, and what is told of a missing one does not name the reference. -/
theorem scarce_not_explained :
    (resolve scarce "fx:Compiler" .empty).1.result = .error (Fault.valueFault "no grammar") ∧
    (resolve scarce "fz:Compiler" .empty).1.result = .error (Fault.valueFault "no grammar") ∧
    ∃ fault, (resolve scarce "fy:Compiler" .empty).1.result = .error fault ∧ OfSetting fault ∧
      ¬ "fy:Compiler".toList <:+: fault.message.toList := by
  have hown : ¬ (Fault.valueFault "no grammar").isA "ImportError" = true := by decide
  have hbroken := (resolve_settles_iff scarce "fx:Compiler" .empty).2 (Fault.valueFault "no grammar")
    (.loading (by decide) rfl)
  have hlacking := (resolve_settles_iff scarce "fz:Compiler" .empty).2 (Fault.valueFault "no grammar")
    (.asking (by decide) rfl rfl (by decide))
  have hmissing := (resolve_settles_iff scarce "fy:Compiler" .empty).2 (unknownModule "fy")
    (.loading (by decide) rfl)
  have htold : (resolve scarce "fy:Compiler" .empty).1.result =
      .error (notImported "fy" (unknownModule "fy")).fault := rfl
  refine ⟨hbroken.resolve_right fun himport => hown himport.1,
    hlacking.resolve_right fun himport => hown himport.1, ?_⟩
  obtain hresult | ⟨-, fault, hresult, hsetting, -, hunnamed⟩ := hmissing
  · exact Fault.noConfusion (Except.error.inj (htold.symm.trans hresult))
  · exact ⟨fault, hresult, hsetting, hunnamed⟩

/-- A module whose name starts with a point. -/
theorem relative_not_explained :
    (resolve (fun _ => none) ".fx:Compiler" .empty).1.result = .error (Fault.typeFault
      "the 'package' argument is required to perform a relative import for '.fx'") ∧
    ¬ Settles (fun _ => none) ".fx:Compiler" .empty := by
  refine ⟨rfl, not_settles_of_relative (by decide) (by decide)⟩

end FactIntake.Reference
