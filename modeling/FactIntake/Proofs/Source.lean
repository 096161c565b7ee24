import FactIntake.Loader
import FactIntake.Proofs.Results

/-!
The text of a source. A source is a file or all of standard input; once its text is there, compiling
the source is compiling that text under the label of the source.
-/

namespace FactIntake.Loader

variable {loader : Loader} {disk : Disk} {stdin : Stream} {path : String}

/-- The label that the compiler of a source is built for. -/
def label (loader : Loader) (path : String) : String :=
  if Sentinel.isStdin path loader.settings.extensions then stdinLabel else path

theorem label_of_file (h : Sentinel.isStdin path loader.settings.extensions = false) :
    loader.label path = path := by
  simp [label, h]

theorem label_of_stdin (h : Sentinel.isStdin path loader.settings.extensions = true) :
    loader.label path = stdinLabel := by
  simp [label, h]

/-- The event that tells where a source comes from. -/
def resolved (loader : Loader) (path : String) : Event :=
  if Sentinel.isStdin path loader.settings.extensions then .sourceResolved stdinLabel .stdin
  else .sourceResolved path .file

/-- Nothing can be read at an empty path. -/
theorem fileBytes_empty (disk : Disk) : ∃ fault, fileBytes disk "" = .error fault := by
  refine ⟨diskFault "" .missing, ?_⟩
  simp [fileBytes, Disk.read, Disk.find, bind, Except.bind]

theorem compileText_eq {name : String} (hname : name ≠ "") (text : String) :
    loader.compileText text name = (loader.factory.run name text).bind fun model =>
      (Report.log (.sourceCompiled name text.length)).bind fun _ => .succeed model := by
  have hempty : name.isEmpty = false := by
    rw [← Bool.not_eq_true, String.isEmpty_iff]
    exact hname
  simp only [compileText, hempty, Bool.false_eq_true, if_false]
  rfl

theorem compileText_of_unbuilt {name : String} {fault : Fault} (hname : name ≠ "")
    (h : (loader.factory.build name).result = .error fault) (text : String) :
    loader.compileText text name = ⟨.error fault, (loader.factory.build name).calls,
      (loader.factory.build name).events, (loader.factory.build name).changes⟩ := by
  have hrun : loader.factory.run name text = ⟨.error fault, (loader.factory.build name).calls,
      (loader.factory.build name).events, (loader.factory.build name).changes⟩ :=
    Report.bind_of_error h _
  rw [compileText_eq hname, hrun]
  rfl

theorem compileText_of_uncompiled {name text : String} {compiler : Compiler} {fault : Fault}
    (hname : name ≠ "") (hbuild : (loader.factory.build name).result = .ok compiler)
    (h : (compiler.compile text).result = .error fault) :
    loader.compileText text name = ⟨.error fault,
      (loader.factory.build name).calls ++ (compiler.compile text).calls,
      (loader.factory.build name).events ++ (compiler.compile text).events,
      (loader.factory.build name).changes ++ (compiler.compile text).changes⟩ := by
  have hrun : loader.factory.run name text =
      (loader.factory.build name).bind fun compiler => compiler.compile text := rfl
  rw [compileText_eq hname, hrun, Report.bind_of_ok hbuild, h]
  rfl

theorem compileText_of_compiled {name text : String} {compiler : Compiler} {model : Model}
    (hname : name ≠ "") (hbuild : (loader.factory.build name).result = .ok compiler)
    (h : (compiler.compile text).result = .ok model) :
    (loader.compileText text name).result = .ok model := by
  have hrun : loader.factory.run name text =
      (loader.factory.build name).bind fun compiler => compiler.compile text := rfl
  rw [compileText_eq hname, hrun, Report.bind_of_ok hbuild, h]
  rfl

variable [Codecs]

/-- The source at a path can be read, and this is its text. -/
inductive Holds (loader : Loader) (disk : Disk) (stdin : Stream) (path : String) : String → Prop
  | file {text : String} (hfile : Sentinel.isStdin path loader.settings.extensions = false)
      (htext : loader.fileText disk path = .ok text) : Holds loader disk stdin path text
  | stdin {content : Content} {text : String}
      (hstdin : Sentinel.isStdin path loader.settings.extensions = true)
      (hcontent : stdin = .holding content) (htext : loader.contentText content = .ok text) :
      Holds loader disk stdin path text

theorem fileText_of_ok {bytes : Encoding.Bytes} (h : fileBytes disk path = .ok bytes) :
    loader.fileText disk path = loader.decodeFile bytes := by
  simp [fileText, h, bind, Except.bind]

theorem fileText_of_error {fault : Fault} (h : fileBytes disk path = .error fault) :
    loader.fileText disk path = .error fault := by
  simp [fileText, h, bind, Except.bind]

theorem label_ne_empty {text : String} (h : Holds loader disk stdin path text) :
    loader.label path ≠ "" := by
  cases h with
  | file hfile htext =>
    rintro hempty
    have hpath : path = "" := by simpa [label, hfile] using hempty
    subst hpath
    obtain ⟨fault, hopen⟩ := fileBytes_empty disk
    rw [fileText_of_error hopen] at htext
    simp at htext
  | stdin hstdin hcontent htext =>
    rw [label, if_pos hstdin]
    decide

theorem compileStream_of_unread {stream : Stream} {fault : Fault} {logged : List Event}
    (hread : stream.drain.1 = ⟨.error fault, logged⟩) (name : String) :
    (loader.compileStream stream name).1 = ⟨.error fault, [], logged, []⟩ := by
  have hreport : (loader.compileStream stream name).1 =
      (Report.ofOutcome stream.drain.1).bind fun content =>
        (Report.ofExcept (loader.contentText content)).bind fun text =>
          loader.compileText text name := rfl
  rw [hreport, hread]
  rfl

theorem compileStream_holding (content : Content) (name : String) :
    (loader.compileStream (.holding content) name).1 =
      (Report.ofExcept (loader.contentText content)).bind fun text =>
        loader.compileText text name := rfl

/-- A source that can be read is compiled as its text is, under the label of the source. -/
theorem compileSource_of_holds {text : String} (h : Holds loader disk stdin path text) :
    (loader.compileSource disk stdin path).1 =
      (loader.compileText text (loader.label path)).after [loader.resolved path] := by
  cases h with
  | file hfile htext =>
    simp only [compileSource, label, resolved, hfile, Bool.false_eq_true, if_false]
    rw [htext, Report.bind_eq, Report.ofExcept_ok_bind]
  | stdin hstdin hcontent htext =>
    subst hcontent
    simp only [compileSource, label, resolved, hstdin, if_true]
    rw [compileStream_holding, htext, Report.ofExcept_ok_bind]

end FactIntake.Loader
