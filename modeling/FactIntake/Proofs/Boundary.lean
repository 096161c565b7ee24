import FactIntake.Compiler.Samples
import FactIntake.Proofs.Lineage
import FactIntake.Proofs.Source

/-!
The boundary around the compilation of a file. `Raises` lists everything that can go wrong inside, stage
by stage, and nothing else goes wrong there. What comes out depends on the class of the fault alone:
faults of reading become an unreadable source, memory and recursion faults and those outside
`Exception` pass, and any other fault is wrapped as it is. A failure comes out of every ordinary fault
but one that gives a value as its place that is no trail; that one comes out as a type fault.
-/

namespace FactIntake.Loader

open Fault

variable {loader : Loader} {disk : Disk} {stdin : Stream} {path : String}

inductive Stage
  | opening | reading | decoding | building | compiling
deriving DecidableEq, Repr

/-- At a stage of compiling the source at a path a fault is raised; `logged` is what the stream, the
factory and the compiler logged until then. -/
inductive Raises [Codecs] (loader : Loader) (disk : Disk) (stdin : Stream) (path : String) :
    Stage → Fault → List Event → Prop
  | opening {fault : Fault} (hfile : Sentinel.isStdin path loader.settings.extensions = false)
      (hopen : fileBytes disk path = .error fault) :
      Raises loader disk stdin path .opening fault []
  | reading {fault : Fault} {logged : List Event}
      (hstdin : Sentinel.isStdin path loader.settings.extensions = true)
      (hread : stdin.drain.1 = ⟨.error fault, logged⟩) :
      Raises loader disk stdin path .reading fault logged
  | decodingFile {bytes : Encoding.Bytes} {fault : Fault}
      (hfile : Sentinel.isStdin path loader.settings.extensions = false)
      (hopen : fileBytes disk path = .ok bytes) (hdecode : loader.decodeFile bytes = .error fault) :
      Raises loader disk stdin path .decoding fault []
  | decodingStdin {content : Content} {fault : Fault}
      (hstdin : Sentinel.isStdin path loader.settings.extensions = true)
      (hcontent : stdin = .holding content)
      (hdecode : loader.contentText content = .error fault) :
      Raises loader disk stdin path .decoding fault []
  | building {text : String} {fault : Fault} (htext : Holds loader disk stdin path text)
      (hbuild : (loader.factory.build (loader.label path)).result = .error fault) :
      Raises loader disk stdin path .building fault
        (loader.factory.build (loader.label path)).events
  | compiling {text : String} {compiler : Compiler} {fault : Fault}
      (htext : Holds loader disk stdin path text)
      (hbuild : (loader.factory.build (loader.label path)).result = .ok compiler)
      (hcompile : (compiler.compile text).result = .error fault) :
      Raises loader disk stdin path .compiling fault
        ((loader.factory.build (loader.label path)).events ++ (compiler.compile text).events)

/-- What is raised inside comes out of compiling the source, after what was logged until then. -/
theorem compileSource_of_raises [Codecs] {stage : Stage} {fault : Fault} {logged : List Event}
    (h : Raises loader disk stdin path stage fault logged) :
    (loader.compileSource disk stdin path).1.result = .error fault ∧
      (loader.compileSource disk stdin path).1.events = loader.resolved path :: logged := by
  cases h with
  | opening hfile hopen =>
    simp only [compileSource, resolved, hfile, Bool.false_eq_true, if_false]
    rw [fileText_of_error hopen, Report.bind_eq, Report.ofExcept_error_bind]
    exact ⟨rfl, rfl⟩
  | reading hstdin hread =>
    simp only [compileSource, resolved, hstdin, if_true]
    rw [compileStream_of_unread hread]
    exact ⟨rfl, rfl⟩
  | decodingFile hfile hopen hdecode =>
    simp only [compileSource, resolved, hfile, Bool.false_eq_true, if_false]
    rw [fileText_of_ok hopen, hdecode, Report.bind_eq, Report.ofExcept_error_bind]
    exact ⟨rfl, rfl⟩
  | decodingStdin hstdin hcontent hdecode =>
    subst hcontent
    simp only [compileSource, resolved, hstdin, if_true]
    rw [compileStream_holding, hdecode, Report.ofExcept_error_bind]
    exact ⟨rfl, rfl⟩
  | building htext hbuild =>
    rw [compileSource_of_holds htext, compileText_of_unbuilt (label_ne_empty htext) hbuild]
    exact ⟨rfl, rfl⟩
  | compiling htext hbuild hcompile =>
    rw [compileSource_of_holds htext,
      compileText_of_uncompiled (label_ne_empty htext) hbuild hcompile]
    exact ⟨rfl, rfl⟩

private theorem raises_of_compileText [Codecs] {text : String} {fault : Fault}
    (htext : Holds loader disk stdin path text)
    (h : (loader.compileText text (loader.label path)).result = .error fault) :
    ∃ stage logged, Raises loader disk stdin path stage fault logged := by
  have hlabel := label_ne_empty htext
  cases hbuild : (loader.factory.build (loader.label path)).result with
  | error raised =>
    rw [compileText_of_unbuilt hlabel hbuild] at h
    obtain rfl : raised = fault := Except.error.inj h
    exact ⟨.building, _, .building htext hbuild⟩
  | ok compiler =>
    cases hcompile : (compiler.compile text).result with
    | error raised =>
      rw [compileText_of_uncompiled hlabel hbuild hcompile] at h
      obtain rfl : raised = fault := Except.error.inj h
      exact ⟨.compiling, _, .compiling htext hbuild hcompile⟩
    | ok model =>
      rw [compileText_of_compiled hlabel hbuild hcompile] at h
      simp at h

/-- Nothing else goes wrong inside. -/
theorem raises_of_compileSource [Codecs] {fault : Fault}
    (h : (loader.compileSource disk stdin path).1.result = .error fault) :
    ∃ stage logged, Raises loader disk stdin path stage fault logged := by
  have hholds : ∀ {text}, Holds loader disk stdin path text →
      ∃ stage logged, Raises loader disk stdin path stage fault logged := by
    intro text htext
    rw [compileSource_of_holds htext] at h
    exact raises_of_compileText htext h
  -- A fault raised before there is a text is the one that comes out.
  have hraises : ∀ {stage raised logged}, Raises loader disk stdin path stage raised logged →
      ∃ stage logged, Raises loader disk stdin path stage fault logged := by
    intro stage raised logged hraised
    rw [(compileSource_of_raises hraised).1] at h
    obtain rfl : raised = fault := Except.error.inj h
    exact ⟨stage, logged, hraised⟩
  cases hsentinel : Sentinel.isStdin path loader.settings.extensions with
  | false =>
    cases hopen : fileBytes disk path with
    | error raised => exact hraises (.opening hsentinel hopen)
    | ok bytes =>
      cases hdecode : loader.decodeFile bytes with
      | error raised => exact hraises (.decodingFile hsentinel hopen hdecode)
      | ok text => exact hholds (.file hsentinel ((fileText_of_ok hopen).trans hdecode))
  | true =>
    cases stdin with
    | holding content =>
      cases hdecode : loader.contentText content with
      | error raised => exact hraises (.decodingStdin hsentinel rfl hdecode)
      | ok text => exact hholds (.stdin hsentinel rfl hdecode)
    | closed binary => exact hraises (.reading hsentinel rfl)
    | broken raised => exact hraises (.reading hsentinel rfl)

theorem passes_iff {fault : Fault} : passes fault ↔
    fault.isA "MemoryError" ∨ fault.isA "RecursionError" ∨ ¬ fault.isA "Exception" := by
  simp [passes, or_assoc]

theorem isReading_iff {fault : Fault} :
    isReading fault ↔ fault.isA "OSError" ∨ fault.isA "UnicodeDecodeError" := by
  simp [isReading]

/-- What is below `Exception` and apart from the faults that pass does not pass. -/
theorem not_passes_of_isA {fault : Fault} {className : String} (h : fault.isA className)
    (habove : isKindOf className "Exception") (hmemory : Apart className "MemoryError")
    (hrecursion : Apart className "RecursionError") : passes fault = false := by
  simp [passes, not_isA_of_apart hmemory h, not_isA_of_apart hrecursion h, isA_trans h habove]

/-- Faults of reading are ordinary ones. -/
theorem not_passes_of_isReading {fault : Fault} (h : isReading fault) : passes fault = false := by
  rcases isReading_iff.mp h with hsystem | hdecode
  · exact not_passes_of_isA hsystem (by decide) (by decide) (by decide)
  · exact not_passes_of_isA hdecode (by decide) (by decide) (by decide)

@[simp] theorem intercept_calls (path : String) (report : Report Model) :
    (intercept path report).calls = report.calls := by
  unfold intercept
  split
  · rfl
  · split <;> rfl

@[simp] theorem intercept_changes (path : String) (report : Report Model) :
    (intercept path report).changes = report.changes := by
  unfold intercept
  split
  · rfl
  · split <;> rfl

theorem intercept_of_ok (path : String) {report : Report Model} {model : Model}
    (h : report.result = .ok model) : intercept path report = report := by
  simp [intercept, h]

theorem intercept_of_passes {report : Report Model} {fault : Fault}
    (h : report.result = .error fault) (hpasses : passes fault) : intercept path report = report := by
  simp [intercept, h, hpasses]

theorem intercept_of_caught (path : String) {report : Report Model} {fault : Fault}
    (h : report.result = .error fault) (hcaught : passes fault = false) :
    (intercept path report).result = .error (failure path (normalised path fault)) ∧
      (intercept path report).events =
        report.events ++ [.sourceFailed path (normalised path fault).className] := by
  simp [intercept, h, hcaught]

theorem failure_of_fit {inside : Fault} (h : inside.place.unfit? = none) :
    failure path inside = .caused (.failed path inside) inside := by
  simp [failure, wrap, placeType?, h]

theorem failure_of_unfit {inside : Fault} {value : Model} (h : inside.place.unfit? = some value) :
    failure path inside = noTrail value.typeName := by
  simp [failure, wrap, placeType?, h]

theorem compileFile_eq [Codecs] (path : String) : (loader.compileFile disk stdin path).1 =
    intercept path (loader.compileSource disk stdin path).1 := rfl

/-- A failure that wraps the fault inside it for the source at a path. -/
structure Wraps (path : String) (inside failure : Fault) : Prop where
  className : failure.className = "CompileFailure"
  message : failure.message = "In " ++ path ++ " " ++ Text.strip inside.message
  path : failure.path? = some path
  original : failure.original? = some inside
  cause : failure.cause? = some inside
  kind : failure.kind? = some inside.className
  originalMessage : failure.originalMessage? = some inside.message
  place : failure.place = .marks inside.trail

/-- A fault of reading stands for another one at a path. -/
structure Unreadable (path : String) (cause reading : Fault) : Prop where
  className : reading.className = "SourceIOError"
  message : reading.message = cause.message
  path : reading.path? = some path
  cause : reading.cause? = some cause
  trail : reading.trail = []

theorem wraps_failure (path : String) {inside : Fault} (h : inside.place.unfit? = none) :
    Wraps path inside (failure path inside) := by
  rw [failure_of_fit h]
  exact ⟨rfl, rfl, rfl, rfl, rfl, rfl, rfl, rfl⟩

theorem unreadable_reading (path : String) (fault : Fault) :
    Unreadable path fault (Fault.reading path fault) := ⟨rfl, rfl, rfl, rfl, rfl⟩

theorem not_failure_of_unfit {inside : Fault} {value : Model}
    (h : inside.place.unfit? = some value) :
    (failure path inside).className ≠ "CompileFailure" := by
  rw [failure_of_unfit h]
  show "TypeError" ≠ "CompileFailure"
  decide

/-- A fault of reading comes out wrapped twice: as an unreadable source, and that as a failure. -/
theorem compileFile_of_isReading [Codecs] {stage : Stage} {fault : Fault} {logged : List Event}
    (h : Raises loader disk stdin path stage fault logged) (hreading : isReading fault) :
    (loader.compileFile disk stdin path).1.result =
        .error (failure path (Fault.reading path fault)) ∧
      (loader.compileFile disk stdin path).1.events =
        loader.resolved path :: logged ++ [.sourceFailed path "SourceIOError"] := by
  obtain ⟨hresult, hevents⟩ := compileSource_of_raises h
  have hcaught := intercept_of_caught path hresult (not_passes_of_isReading hreading)
  rw [normalised, if_pos hreading, hevents] at hcaught
  exact hcaught

theorem compileFile_of_passes [Codecs] {stage : Stage} {fault : Fault} {logged : List Event}
    (h : Raises loader disk stdin path stage fault logged) (hpasses : passes fault) :
    (loader.compileFile disk stdin path).1.result = .error fault ∧
      (loader.compileFile disk stdin path).1.events = loader.resolved path :: logged := by
  obtain ⟨hresult, hevents⟩ := compileSource_of_raises h
  rw [compileFile_eq, intercept_of_passes hresult hpasses]
  exact ⟨hresult, hevents⟩

theorem compileFile_of_ordinary [Codecs] {stage : Stage} {fault : Fault} {logged : List Event}
    (h : Raises loader disk stdin path stage fault logged) (hpasses : passes fault = false)
    (hreading : isReading fault = false) :
    (loader.compileFile disk stdin path).1.result = .error (failure path fault) ∧
      (loader.compileFile disk stdin path).1.events =
        loader.resolved path :: logged ++ [.sourceFailed path fault.className] := by
  obtain ⟨hresult, hevents⟩ := compileSource_of_raises h
  have hcaught := intercept_of_caught path hresult hpasses
  rw [normalised, if_neg (by simp [hreading]), hevents] at hcaught
  exact hcaught

/-- A failure that comes out of compiling a file wraps a fault. -/
theorem original_of_compileFile [Codecs] {fault : Fault}
    (h : (loader.compileFile disk stdin path).1.result = .error fault)
    (hclass : fault.isA "CompileFailure") : ∃ original, fault.original? = some original := by
  cases hsource : (loader.compileSource disk stdin path).1.result with
  | ok model =>
    rw [compileFile_eq, intercept_of_ok path hsource, hsource] at h
    simp at h
  | error raised =>
    cases hpasses : passes raised with
    | true =>
      rw [compileFile_eq, intercept_of_passes hsource hpasses, hsource] at h
      obtain rfl : raised = fault := Except.error.inj h
      have hcaught := not_passes_of_isA hclass (by decide) (by decide) (by decide)
      rw [hpasses] at hcaught
      contradiction
    | false =>
      rw [compileFile_eq, (intercept_of_caught path hsource hpasses).1] at h
      obtain rfl := Except.error.inj h
      cases hplace : (normalised path raised).place.unfit? with
      | none => exact ⟨_, (wraps_failure path hplace).original⟩
      | some value =>
        rw [failure_of_unfit hplace] at hclass
        have hother : isKindOf "TypeError" "CompileFailure" = false := by decide
        exact absurd (hother.symm.trans hclass) (by decide)

/-- What comes out of compiling a file is told by the class of the fault inside, whatever the stage
that raised it: an unreadable source, the fault itself, or a failure that wraps it as it is. -/
theorem compileFile_classifies [Codecs] {stage : Stage} {fault : Fault} {logged : List Event}
    (h : Raises loader disk stdin path stage fault logged) :
    (fault.isA "OSError" ∨ fault.isA "UnicodeDecodeError" →
      ∃ failure original, (loader.compileFile disk stdin path).1.result = .error failure ∧
        Wraps path original failure ∧ Unreadable path fault original ∧ failure.trail = [] ∧
        (loader.compileFile disk stdin path).1.events =
          loader.resolved path :: logged ++ [.sourceFailed path "SourceIOError"]) ∧
    (fault.isA "MemoryError" ∨ fault.isA "RecursionError" ∨ ¬ fault.isA "Exception" →
      (loader.compileFile disk stdin path).1.result = .error fault ∧
        (loader.compileFile disk stdin path).1.events = loader.resolved path :: logged) ∧
    (¬ (fault.isA "OSError" ∨ fault.isA "UnicodeDecodeError") →
      ¬ (fault.isA "MemoryError" ∨ fault.isA "RecursionError" ∨ ¬ fault.isA "Exception") →
      ∀ failure, (loader.compileFile disk stdin path).1.result = .error failure →
        failure.className = "CompileFailure" →
        Wraps path fault failure ∧
          (loader.compileFile disk stdin path).1.events =
            loader.resolved path :: logged ++ [.sourceFailed path fault.className]) := by
  refine ⟨fun hreading => ?_, fun hpasses => ?_, fun hreading hpasses failure hout hclass => ?_⟩
  · obtain ⟨hresult, hevents⟩ := compileFile_of_isReading h (isReading_iff.mpr hreading)
    exact ⟨_, _, hresult, wraps_failure path rfl, unreadable_reading path fault, rfl, hevents⟩
  · exact compileFile_of_passes h (passes_iff.mpr hpasses)
  · rw [← isReading_iff, Bool.not_eq_true] at hreading
    rw [← passes_iff, Bool.not_eq_true] at hpasses
    obtain ⟨hresult, hevents⟩ := compileFile_of_ordinary h hpasses hreading
    obtain rfl := Except.error.inj (hresult.symm.trans hout)
    refine ⟨wraps_failure path ?_, hevents⟩
    cases hplace : fault.place.unfit? with
    | none => rfl
    | some value => exact absurd hclass (not_failure_of_unfit hplace)

/-- A loader of which every compiler fails in the same way. -/
def stalling (draft : Draft) : Loader := ⟨Samples.failing draft, .default⟩

/-- What is on standard input reaches the compiler, which then fails. -/
theorem stalling_raises [Codecs] (draft : Draft) (disk : Disk) (text : String) :
    Raises (stalling draft) disk (.holding (.text text)) "-.cql" .compiling draft.raise.fault
      draft.raise.events := by
  have hstdin : Sentinel.isStdin "-.cql" (stalling draft).settings.extensions = true := by
    show Sentinel.isStdin "-.cql" Settings.sourceExtensions = true
    decide
  exact .compiling (.stdin hstdin rfl rfl) rfl rfl

/-- A compiler that runs out of time makes its source an unreadable one. -/
theorem timeout_unreadable :
    ∃ failure original,
      ((stalling (.general "TimeoutError" [.text "late"])).compileFile ⟨[], []⟩
        (.holding (.text "A")) "-.cql").1.result = .error failure ∧
      Wraps "-.cql" original failure ∧
      Unreadable "-.cql" (.general "TimeoutError" [.text "late"]) original := by
  obtain ⟨failure, original, hresult, hwraps, hunreadable, -⟩ :=
    (compileFile_classifies (stalling_raises (.general "TimeoutError" [.text "late"]) ⟨[], []⟩
      "A")).1 (Or.inl (by decide))
  exact ⟨failure, original, hresult, hwraps, hunreadable⟩

theorem unfit?_eq_none_iff {place : Place} :
    place.unfit? = none ↔ ∀ value, place = .value value → value.items?.isSome := by
  cases place with
  | absent => simp [Place.unfit?]
  | marks trail => simp [Place.unfit?]
  | value given => cases hitems : given.items? <;> simp [Place.unfit?, hitems]

/-- An ordinary fault comes out as a failure with its text unless it gives a value as its place that is
no trail; then the wrapping itself goes wrong, and a type fault comes out. -/
theorem compileFile_fails_iff [Codecs] {stage : Stage} {fault : Fault} {logged : List Event}
    (h : Raises loader disk stdin path stage fault logged) (hordinary : fault.isA "Exception")
    (hmemory : ¬ fault.isA "MemoryError") (hrecursion : ¬ fault.isA "RecursionError") :
    ((∃ failure, (loader.compileFile disk stdin path).1.result = .error failure ∧
        failure.className = "CompileFailure" ∧ failure.path? = some path ∧
        failure.message = "In " ++ path ++ " " ++ Text.strip fault.message) ↔
      fault.isA "OSError" ∨ fault.isA "UnicodeDecodeError" ∨
        ∀ value, fault.place = .value value → value.items?.isSome) ∧
    (∀ value, fault.place = .value value → value.items? = none →
      ¬ fault.isA "OSError" → ¬ fault.isA "UnicodeDecodeError" →
      (loader.compileFile disk stdin path).1.result =
        .error (typeFault ("'" ++ value.typeName ++ "' object is not iterable"))) := by
  have hpasses : passes fault = false := by
    rw [← Bool.not_eq_true, passes_iff]
    simp [hordinary, hmemory, hrecursion]
  cases hreading : isReading fault with
  | true =>
    have hclass := isReading_iff.mp hreading
    obtain ⟨hresult, -⟩ := compileFile_of_isReading h hreading
    have hwraps : Wraps path (Fault.reading path fault) (failure path (Fault.reading path fault)) :=
      wraps_failure path rfl
    refine ⟨iff_of_true ⟨_, hresult, hwraps.className, hwraps.path, hwraps.message⟩ ?_, ?_⟩
    · exact hclass.elim Or.inl fun hdecode => Or.inr (Or.inl hdecode)
    · intro value _ _ hsystem hdecode
      exact absurd hclass (by simp [hsystem, hdecode])
  | false =>
    have hclass : ¬ (fault.isA "OSError" ∨ fault.isA "UnicodeDecodeError") := by
      rw [← isReading_iff, hreading]
      decide
    obtain ⟨hresult, -⟩ := compileFile_of_ordinary h hpasses hreading
    rw [← or_assoc, or_iff_right hclass, ← unfit?_eq_none_iff, hresult]
    refine ⟨?_, fun value hvalue hitems _ _ => ?_⟩
    · cases hplace : fault.place.unfit? with
      | none =>
        have hwraps := wraps_failure path hplace
        exact iff_of_true ⟨_, rfl, hwraps.className, hwraps.path, hwraps.message⟩ rfl
      | some found =>
        refine iff_of_false ?_ (by simp)
        rintro ⟨failed, hout, hfailed, -⟩
        obtain rfl := Except.error.inj hout
        exact not_failure_of_unfit hplace hfailed
    · have hplace : fault.place.unfit? = some value := by simp [hvalue, Place.unfit?, hitems]
      rw [failure_of_unfit hplace]
      rfl

/-- A parser's fault that has nothing as its place. -/
def unplaced : Draft := .foreign "m" (.value .null)

theorem unplaced_type_fault :
    ((stalling unplaced).compileFile ⟨[], []⟩ (.holding (.text "A")) "-.cql").1.result =
      .error (typeFault "'NoneType' object is not iterable") :=
  (compileFile_fails_iff (stalling_raises unplaced ⟨[], []⟩ "A") (by decide) (by decide)
    (by decide)).2 .null rfl rfl (by decide) (by decide)

/-- No failure comes out although the fault inside is an ordinary one. -/
theorem unplaced_not_wrapped :
    ∃ stage fault logged, Raises (stalling unplaced) ⟨[], []⟩ (.holding (.text "A")) "-.cql" stage
        fault logged ∧
      fault.isA "Exception" ∧ ¬ fault.isA "MemoryError" ∧ ¬ fault.isA "RecursionError" ∧
      ∀ failure, ((stalling unplaced).compileFile ⟨[], []⟩ (.holding (.text "A"))
        "-.cql").1.result = .error failure → failure.className ≠ "CompileFailure" := by
  refine ⟨_, _, _, stalling_raises unplaced ⟨[], []⟩ "A", by decide, by decide, by decide, ?_⟩
  have hresult : ((stalling unplaced).compileFile ⟨[], []⟩ (.holding (.text "A"))
      "-.cql").1.result = .error (failure "-.cql" unplaced.raise.fault) :=
    (compileFile_of_ordinary (stalling_raises unplaced ⟨[], []⟩ "A") (by decide) (by decide)).1
  rintro failed hout
  obtain rfl := Except.error.inj (hresult.symm.trans hout)
  exact not_failure_of_unfit rfl

end FactIntake.Loader
