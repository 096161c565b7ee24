import FactIntake.Proofs.Requests
import FactIntake.Proofs.Results

/-!
How a loader comes about. One that is built has the settings it is built from, and the factory given or
the value that the reference in its settings leads to; the environment gives no extensions, so a loader
that it configures recognises those of the source language. The loader of a request is the current one, as
it is with what is imported by then, or one that the environment configures.
-/

namespace FactIntake

theorem Report.bind_eq_ok_iff {report : Report α} {next : α → Report β} {result : β} :
    (report.bind next).result = .ok result ↔
      ∃ value, report.result = .ok value ∧ (next value).result = .ok result := by
  cases hresult : report.result with
  | error fault => simp [Report.bind_of_error hresult]
  | ok value => simp [Report.bind_of_ok hresult]

/-- What calls nothing adds nothing to the calls before it. -/
theorem Report.bind_calls_of_silent {report : Report α} {next : α → Report β}
    (h : ∀ value, (next value).calls = []) : (report.bind next).calls = report.calls := by
  cases hresult : report.result with
  | error fault => rw [Report.bind_of_error hresult]
  | ok value =>
    rw [Report.bind_of_ok hresult]
    exact (congrArg _ (h value)).trans (List.append_nil _)

namespace Settings

/-- Settings are accepted field by field. -/
theorem check_eq_ok [Codecs] {given : Given} {settings : Settings} (h : check given = .ok settings) :
    checkExtensions (given.lookup "extensions") = .ok settings.extensions ∧
      checkEncoding (given.lookup "encoding") = .ok settings.encoding ∧
      checkCompiler (given.lookup "compiler") = .ok settings.compiler ∧ unknownIssues given = [] := by
  simp only [check] at h
  split at h
  · rename_i extensions encoding compiler hextensions hencoding hcompiler hunknown
    obtain rfl := Except.ok.inj h
    exact ⟨hextensions, hencoding, hcompiler, hunknown⟩
  · simp at h

theorem extensions_of_fromEnvironment [Codecs] {environment : Environment} {settings : Settings}
    (h : fromEnvironment environment [] = .ok settings) : settings.extensions = sourceExtensions := by
  have hgiven : environment.given.lookup "extensions" = none := by
    unfold Environment.given
    simp only
    split <;> split <;> (try split) <;> (try split) <;> simp
  have hextensions := (check_eq_ok h).1
  simp only [List.filter_nil, Entries.putAll, List.foldl_nil, hgiven, checkExtensions] at hextensions
  exact (Except.ok.inj hextensions).symm

end Settings

namespace Loader

variable {registry : Registry} {factory : Option Factory} {settings : Settings} {imports : Imports}
  {environment : Environment} {prepared : Prepared}

theorem create_eq_ok [Codecs] (h : (create registry factory settings imports).1.result = .ok prepared) :
    (∃ given, factory = some given ∧ prepared = ⟨fun _ => given, settings⟩) ∨
      ∃ reference value, settings.compiler = some reference ∧
        (Reference.resolve registry reference imports).1.result = .ok value ∧
        prepared = ⟨Import.factoryOf registry value, settings⟩ := by
  unfold create at h
  split at h
  · exact Or.inl ⟨_, rfl, (Except.ok.inj h).symm⟩
  · simp [Report.fail] at h
  · rename_i reference hreference
    split at h
    · simp [Report.fail] at h
    · cases hresolve : Reference.resolve registry reference imports with
      | mk resolved later =>
        rw [hresolve] at h
        obtain ⟨value, hvalue, hprepared⟩ := Report.bind_eq_ok_iff.mp h
        exact Or.inr ⟨reference, value, hreference, by rw [hresolve]; exact hvalue,
          (Except.ok.inj hprepared).symm⟩

/-- A loader that the environment configures. -/
theorem fromEnvironment_eq_ok [Codecs]
    (h : (fromEnvironment registry environment imports).1.result = .ok prepared) :
    prepared.settings.extensions = Settings.sourceExtensions ∧
      ∃ reference value, (Reference.resolve registry reference imports).1.result = .ok value ∧
        prepared.factory = Import.factoryOf registry value := by
  unfold fromEnvironment at h
  cases hsettings : Settings.fromEnvironment environment [] with
  | error issues => simp [hsettings, Settings.orFault, Report.fail] at h
  | ok settings =>
    rw [hsettings] at h
    obtain ⟨given, hgiven, -⟩ | ⟨reference, value, -, hvalue, rfl⟩ := create_eq_ok h
    · simp at hgiven
    · exact ⟨Settings.extensions_of_fromEnvironment hsettings, reference, value, hvalue, rfl⟩

end Loader

namespace Session

variable {session : Session} {entry : Entry} {loader : Loader}

/-- The loader of a request, from the receiver that the request names. -/
theorem received_eq_ok [Codecs] (h : (session.received entry).1.result = .ok loader) :
    (entry.receiver = .current ∧ ∃ prepared, session.loader = some prepared ∧
        loader = prepared.loader session.imports) ∨
      (entry.receiver = .configured ∧ ∃ prepared,
        (Loader.fromEnvironment session.registry session.environment session.imports).1.result =
          .ok prepared ∧
        loader = prepared.loader (session.received entry).2.imports) := by
  cases hreceiver : entry.receiver with
  | current =>
    simp only [received, receive, hreceiver] at h
    cases hloader : session.loader with
    | none => simp [hloader, Report.fail] at h
    | some prepared =>
      rw [hloader] at h
      exact Or.inl ⟨rfl, prepared, rfl, (Except.ok.inj h).symm⟩
  | configured =>
    simp only [received, receive, hreceiver] at h
    cases hbuilt : Loader.fromEnvironment session.registry session.environment session.imports with
    | mk built imports =>
      rw [hbuilt] at h
      obtain ⟨prepared, hprepared, hresult⟩ := Report.bind_eq_ok_iff.mp h
      refine Or.inr ⟨rfl, prepared, hprepared, ?_⟩
      simp only [received, receive, hreceiver, hbuilt]
      exact (Except.ok.inj hresult).symm

/-- The extensions that a loader of the session recognises. -/
def recognised (session : Session) : List String :=
  Settings.sourceExtensions ++ session.loader.elim [] (·.settings.extensions)

/-- A path that no loader of the session takes for standard input. -/
theorem not_isStdin_of_received [Codecs] {path : String} (h : (session.received entry).1.result = .ok loader)
    (hpath : Sentinel.isStdin path session.recognised = false) :
    Sentinel.isStdin path loader.settings.extensions = false := by
  have hboth : Sentinel.isStdin path Settings.sourceExtensions = false ∧
      Sentinel.isStdin path (session.loader.elim [] (·.settings.extensions)) = false := by
    simpa [recognised, Sentinel.isStdin, List.any_append] using hpath
  obtain ⟨-, prepared, hloader, rfl⟩ | ⟨-, prepared, hprepared, rfl⟩ := received_eq_ok h
  · show Sentinel.isStdin path prepared.settings.extensions = false
    simpa [hloader] using hboth.2
  · show Sentinel.isStdin path prepared.settings.extensions = false
    rw [(Loader.fromEnvironment_eq_ok hprepared).1]
    exact hboth.1

end Session

end FactIntake
