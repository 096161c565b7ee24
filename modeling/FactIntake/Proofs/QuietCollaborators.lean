import FactIntake.Proofs.CallDiscipline
import FactIntake.Proofs.LogFormats
import FactIntake.Proofs.SilentCalls

/-!
Collaborators that keep to themselves. A stream, a factory and a compiler may log what they like; those
that a session is given are quiet if none of that is in the name of the component that compiles sources.
Whatever a reference leads to is then quiet as well, called with any label, and so a session stays quiet
over any run.
-/

namespace FactIntake

/-- None of these events comes from the component that compiles sources. -/
def Quiet (events : List Event) : Prop := ∀ event ∈ events, event.component ≠ .source

theorem quiet_nil : Quiet [] := fun _ hevent => absurd hevent List.not_mem_nil

theorem quiet_append_iff {first later : List Event} : Quiet (first ++ later) ↔ Quiet first ∧ Quiet later :=
  List.forall_mem_append

/-- What a report logs is quiet, and the value that it gives is of the kind that is wanted. -/
structure Report.Quietly (p : α → Prop) (report : Report α) : Prop where
  events : Quiet report.events
  value : ∀ value, report.result = .ok value → p value

namespace Report

variable {p : α → Prop} {q : β → Prop}

theorem quietly_fail (fault : Fault) : (Report.fail fault).Quietly p :=
  ⟨quiet_nil, fun _ hvalue => by cases hvalue⟩

theorem quietly_succeed {value : α} (h : p value) : (Report.succeed value).Quietly p := by
  refine ⟨quiet_nil, fun other hother => ?_⟩
  obtain rfl := Except.ok.inj hother
  exact h

theorem Quietly.bind {report : Report α} {next : α → Report β} (h : report.Quietly p)
    (hnext : ∀ value, p value → (next value).Quietly q) : (report.bind next).Quietly q := by
  cases hresult : report.result with
  | error fault =>
    rw [bind_of_error hresult]
    exact ⟨h.events, fun _ hvalue => by cases hvalue⟩
  | ok value =>
    have hlater := hnext value (h.value value hresult)
    rw [bind_of_ok hresult]
    exact ⟨quiet_append_iff.mpr ⟨h.events, hlater.events⟩, hlater.value⟩

/-- What refuses, and is the same in silence, logs nothing. -/
theorem quietly_of_muted {report : Report α} {view : α → α} (hmuted : report.muted view = report)
    (hrefuses : report.Refuses) : report.Quietly p := by
  have hevents : report.events = [] := by
    rw [← hmuted]
    rfl
  obtain ⟨fault, hfault⟩ := hrefuses.result
  refine ⟨hevents ▸ quiet_nil, fun value hvalue => ?_⟩
  rw [hfault] at hvalue
  cases hvalue

end Report

def Compiler.Quiet (compiler : Compiler) : Prop :=
  ∀ text, FactIntake.Quiet (compiler.compile text).events

/-- Building a compiler is quiet, and so is the compiler. -/
def Factory.Quiet (factory : Factory) : Prop := ∀ label, (factory.build label).Quietly Compiler.Quiet

theorem Factory.Quiet.run {factory : Factory} (h : factory.Quiet) (label text : String) :
    FactIntake.Quiet (factory.run label text).events := by
  have hrun : (factory.run label text).Quietly fun _ => True :=
    (h label).bind fun compiler hcompiler => ⟨hcompiler text, fun _ _ => trivial⟩
  exact hrun.events

namespace Import

variable {registry : Registry} {imports : Imports} {label : String}

/-- Whatever modules define in the place of a factory is quiet. -/
def QuietModules (registry : Registry) : Prop :=
  ∀ definition factory, Defines registry definition → definition.factory = some factory → factory.Quiet

theorem QuietModules.hook (h : QuietModules registry) {factory : Factory} (hhook : IsHook registry factory) :
    factory.Quiet := by
  obtain ⟨name, found, definition, hfound, hmember, hfactory⟩ := hhook
  exact h definition factory (.member hfound hmember) hfactory

theorem QuietModules.given (h : QuietModules registry) {attr : String} {compiler : Compiler}
    (hgiven : GivenFor registry attr compiler) : compiler.Quiet := by
  obtain ⟨factory, hhook, hbuilt⟩ := hgiven
  exact (h.hook hhook attr).value compiler hbuilt

/-- Values that come from modules are kept, so that a compiler among them is quiet. -/
theorem attributeOf_quietly (h : QuietModules registry) {value : Value}
    (hvalue : Stems registry (GivenFor registry) value) (attr : String) :
    (attributeOf registry imports value attr).Quietly (Stems registry (GivenFor registry)) := by
  constructor
  · obtain ⟨found, -, hreport⟩ | ⟨fault, hreport⟩ | ⟨name, factory, rfl, hlacks⟩ :=
      attributeOf_cases registry imports value attr
    · rw [hreport]
      exact quiet_nil
    · rw [hreport]
      exact quiet_nil
    · rw [attributeOf_of_lacks hlacks]
      have hbuilt := h.hook hlacks.isHook attr
      exact (hbuilt.bind (q := fun _ => True) fun compiler _ => Report.quietly_succeed trivial).events
  · intro found hfound
    exact attributeOf_known (fun _ _ => trivial) hvalue
      (fun _ factory _ _ hlacks hbuilt => ⟨factory, hlacks.isHook, hbuilt⟩) hfound

theorem asCompiler_quietly (h : QuietModules registry) {value : Value}
    (hvalue : Stems registry (GivenFor registry) value) :
    (asCompiler registry imports value).Quietly Compiler.Quiet := by
  unfold asCompiler
  split
  · obtain ⟨attr, hgiven⟩ := hvalue
    exact Report.quietly_succeed (h.given hgiven)
  · exact Report.quietly_fail _

theorem quietly_givesUnless (fault? : Option Fault) (className : String) :
    (givesUnless fault? className).Quietly Compiler.Quiet :=
  Report.quietly_of_muted (muted_givesUnless fault? className) (refuses_givesUnless fault? className)

theorem quietly_lay (value : Value) (layout : String) : (lay value layout).Quietly Compiler.Quiet := by
  unfold lay
  split
  · exact quietly_givesUnless _ _
  · exact Report.quietly_fail _

theorem quietly_fixedField (value : Value) (field : String) :
    (fixedField value field).Quietly Compiler.Quiet := by
  unfold fixedField
  split <;> exact Report.quietly_fail _

theorem quietly_change (change : Change) : (Report.change change).Quietly fun _ => True :=
  ⟨quiet_nil, fun _ _ => trivial⟩

theorem quietly_remove (value : Value) (attr : String) :
    (remove registry imports value attr).Quietly Compiler.Quiet := by
  unfold remove
  simp only
  split
  · split
    · exact quietly_fixedField _ _
    · split
      · exact (quietly_change _).bind fun _ _ => Report.quietly_fail _
      · split
        · exact quietly_fixedField _ _
        · exact Report.quietly_fail _
  · exact quietly_fixedField _ _
  · exact Report.quietly_fail _
  · exact Report.quietly_fail _

theorem mappingAnswer_quietly (h : QuietModules registry) (mapping : Value) (name key : String) :
    (mappingAnswer registry imports mapping name key).Quietly Compiler.Quiet := by
  have halter : ∀ remnant, (alter mapping key remnant).Quietly fun _ => True := by
    intro remnant
    unfold alter
    split
    · exact quietly_change _
    · exact Report.quietly_succeed trivial
  unfold mappingAnswer
  simp only
  split
  · rename_i value hfound
    exact (halter .missing).bind fun _ _ => asCompiler_quietly h (mapped?_known hfound)
  · exact (halter .missing).bind fun _ _ => Report.quietly_fail _
  · exact (halter .nothing).bind fun _ _ => Report.quietly_fail _
  · rename_i value hfound
    exact asCompiler_quietly h (mapped?_known hfound)
  · exact Report.quietly_fail _
  · exact Report.quietly_fail _

theorem viewAnswer_quietly (h : QuietModules registry) (mapping : Value) (name key : String) :
    (viewAnswer registry imports mapping name key).Quietly Compiler.Quiet := by
  unfold viewAnswer
  split
  · exact Report.quietly_fail _
  · split
    · exact Report.quietly_fail _
    · split
      · exact Report.quietly_fail _
      · exact mappingAnswer_quietly h mapping name key

variable [Codecs]

theorem ownAnswer_quietly (h : QuietModules registry) {receiver : Value}
    (hreceiver : Stems registry (GivenFor registry) receiver)
    (operation : Operation) (label : String) :
    (ownAnswer registry imports receiver operation label).Quietly Compiler.Quiet := by
  unfold ownAnswer
  split
  · exact (attributeOf_quietly h hreceiver label).bind fun value hvalue => asCompiler_quietly h hvalue
  · exact quietly_remove _ _
  · exact quietly_lay _ _
  · exact Report.quietly_fail _
  · exact Report.quietly_fail _
  · exact Report.quietly_of_muted (muted_renameModule _ _) (refuses_renameModule _ _)
  · exact Report.quietly_of_muted (muted_rebound _) (refuses_rebound _)
  · -- A compiler that a module gave has the label compiled, and is quiet as the module is.
    obtain ⟨attr, hgiven⟩ := hreceiver
    have hcompile : ∀ compiler : Compiler, compiler.Quiet →
        (compiler.compile label).Quietly fun _ => True := fun _ hcompiler => ⟨hcompiler label, fun _ _ => trivial⟩
    exact (hcompile _ (h.given hgiven)).bind fun _ _ => Report.quietly_fail _
  · exact Report.quietly_fail _
  · exact Report.quietly_of_muted (muted_textAnswer _ _ _) (refuses_textAnswer _ _ _)
  · exact viewAnswer_quietly h _ _ _
  · exact mappingAnswer_quietly h _ _ _

theorem operate_quietly (h : QuietModules registry) {receiver : Value}
    (hreceiver : Stems registry (GivenFor registry) receiver)
    (operation : Operation) (label : String) :
    (operate registry imports receiver operation label).Quietly Compiler.Quiet := by
  unfold operate
  split
  · unfold nothingWanted
    split <;> exact Report.quietly_fail _
  · exact Report.quietly_fail _
  · exact Report.quietly_fail _
  · exact Report.quietly_fail _
  · exact Report.quietly_fail _
  · exact ownAnswer_quietly h hreceiver operation label

/-- A value that is called is quiet if what modules define is. -/
theorem apply_quietly (h : QuietModules registry) {value : Value}
    (hvalue : Stems registry (GivenFor registry) value) (label : String) :
    (apply registry imports value label).Quietly Compiler.Quiet := by
  induction value with
  | defined definition =>
    unfold apply
    split
    · rename_i factory hfactory
      exact h definition factory hvalue hfactory label
    · exact Report.quietly_fail _
  | type className =>
    exact Report.quietly_of_muted (muted_construct className label) (refuses_construct className label)
  | unbound operation =>
    exact Report.quietly_of_muted (muted_operateAlone operation label) (refuses_operateAlone operation label)
  | bound receiver operation ih =>
    unfold apply
    split
    · exact ih hvalue
    · have hreceiver : Stems registry (GivenFor registry) receiver := hvalue
      exact operate_quietly h hreceiver operation label
  | _ => exact Report.quietly_fail _

end Import

/-- Reading the stream is quiet. -/
def Stream.Quiet (stream : Stream) : Prop := FactIntake.Quiet stream.drain.1.events

theorem Stream.quiet_holding (rest : Content) : (Stream.holding rest).Quiet := quiet_nil

theorem Spent.quiet {before after : Stream} (h : Spent before after) (hbefore : before.Quiet) : after.Quiet := by
  rcases h with rfl | h
  · exact hbefore
  · cases before with
    | holding rest =>
      cases rest with
      | text rest =>
        rw [h.text rest rfl]
        exact Stream.quiet_holding _
      | bytes rest =>
        rw [h.bytes rest rfl]
        exact Stream.quiet_holding _
    | closed binary =>
      rw [h.unread (by simp)]
      exact hbefore
    | broken raised =>
      rw [h.unread (by simp)]
      exact hbefore

namespace Loader

/-- Whatever the modules have become, the loader builds quiet compilers. -/
def Prepared.Quiet (prepared : Prepared) : Prop := ∀ imports, (prepared.factory imports).Quiet

theorem create_quiet [Codecs] {registry : Registry} {factory : Option Factory} {settings : Settings}
    {imports : Imports} {prepared : Prepared} (h : Import.QuietModules registry)
    (hfactory : ∀ given, factory = some given → given.Quiet)
    (hprepared : (create registry factory settings imports).1.result = .ok prepared) : prepared.Quiet := by
  intro later
  obtain ⟨given, hgiven, rfl⟩ | ⟨reference, value, -, hvalue, rfl⟩ := create_eq_ok hprepared
  · exact hfactory given hgiven
  · intro label
    have hstems := (Reference.resolve_known hvalue).mono (fun _ _ => trivial) fun _ _ hleads => hleads.givenFor
    exact Import.apply_quietly h hstems label

theorem fromEnvironment_quiet [Codecs] {registry : Registry} {environment : Environment} {imports : Imports}
    {prepared : Prepared} (h : Import.QuietModules registry)
    (hprepared : (fromEnvironment registry environment imports).1.result = .ok prepared) : prepared.Quiet := by
  unfold fromEnvironment at hprepared
  split at hprepared
  · cases hprepared
  · exact create_quiet h (by simp) hprepared

end Loader

/-- What an action brings into the session is quiet. -/
structure Action.Quiet (action : Action) : Prop where
  factory : ∀ factory given, action = .create (some factory) given → factory.Quiet
  defined : ∀ name stream, action = .define name stream → stream.Quiet
  replaced : ∀ stream, action = .replaceStdin stream → stream.Quiet
  given : ∀ entry stream label, action.entry? = some entry → entry.request = .stream (.given stream) label →
    stream.Quiet

namespace Session

variable {session : Session} {action : Action} {entry : Entry} {loader : Loader}

/-- Everything that the session reads or calls is quiet. -/
structure Quiet (session : Session) : Prop where
  modules : Import.QuietModules session.registry
  loader : ∀ prepared, session.loader = some prepared → prepared.Quiet
  stdin : session.stdin.Quiet
  stream : ∀ name, (session.stream name).Quiet

theorem Quiet.of_unchanged {other : Session} (h : session.Quiet) (hregistry : other.registry = session.registry)
    (hloader : other.loader = session.loader) (hstdin : other.stdin = session.stdin)
    (hstreams : other.streams = session.streams) : other.Quiet := by
  refine ⟨hregistry ▸ h.modules, fun prepared hprepared => ?_, hstdin ▸ h.stdin, fun name => ?_⟩
  · exact h.loader prepared (hloader.symm.trans hprepared)
  · rw [Session.stream, hstreams]
    exact h.stream name

theorem Quiet.putStream (h : session.Quiet) (name : String) {stream : Stream} (hstream : stream.Quiet) :
    (session.putStream name stream).Quiet := by
  refine ⟨h.modules, h.loader, h.stdin, fun other => ?_⟩
  by_cases hname : other = name
  · rw [hname, stream_putStream_self]
    exact hstream
  · rw [stream_putStream_of_ne _ _ hname]
    exact h.stream other

theorem Quiet.install (h : session.Quiet) {built : Report Loader.Prepared} (imports : Imports)
    (hbuilt : ∀ prepared, built.result = .ok prepared → prepared.Quiet) :
    (session.install built imports).2.Quiet := by
  unfold Session.install
  cases hresult : built.result with
  | error fault => exact h.of_unchanged rfl rfl rfl rfl
  | ok prepared =>
    refine ⟨h.modules, fun other hother => ?_, h.stdin, h.stream⟩
    obtain rfl := Option.some.inj hother
    exact hbuilt _ hresult

variable [Codecs]

theorem Quiet.perform (h : session.Quiet) (haction : action.Quiet) (hentry : action.entry? = none) :
    (session.perform action).2.Quiet := by
  cases action with
  | create factory given =>
    simp only [Session.perform, Session.create]
    split
    · exact h
    · refine h.install _ fun prepared hprepared => Loader.create_quiet h.modules (fun other hother => ?_) hprepared
      exact haction.factory other given (by rw [hother])
  | createDefault =>
    simp only [Session.perform]
    exact h.install _ fun prepared hprepared => Loader.fromEnvironment_quiet h.modules hprepared
  | resolve reference =>
    simp only [Session.perform]
    exact h.of_unchanged rfl rfl rfl rfl
  | settings | assign field value | configureLogging options =>
    simp only [Session.perform]
    split <;> exact h.of_unchanged rfl rfl rfl rfl
  | define name stream =>
    simp only [Session.perform]
    exact h.putStream name (haction.defined name stream rfl)
  | peek name =>
    have hspent : Spent (session.stream name) (restOf (session.stream name)).2 := by
      cases hstream : session.stream name with
      | closed binary => exact Or.inl rfl
      | holding rest => exact Or.inr (readOut_drain _)
      | broken raised => exact Or.inr (readOut_drain _)
    simp only [Session.perform]
    exact h.putStream name (hspent.quiet (h.stream name))
  | peekStdin =>
    have hspent : Spent session.stdin session.stdin.drain.2 := Or.inr (readOut_drain _)
    simp only [Session.perform, Session.peekStdin]
    exact ⟨h.modules, h.loader, hspent.quiet h.stdin, h.stream⟩
  | replaceStdin stream =>
    simp only [Session.perform]
    exact ⟨h.modules, h.loader, haction.replaced stream rfl, h.stream⟩
  | compileFile | compileStream | compileText | load => simp [Action.entry?] at hentry
  | setVariable | place | remove | draft =>
    simp only [Session.perform]
    exact h.of_unchanged rfl rfl rfl rfl

/-- A session stays quiet as long as what it is given is. -/
theorem Quiet.step (h : session.Quiet) (haction : action.Quiet) : (session.step action).2.2.Quiet := by
  cases hentry : action.entry? with
  | none =>
    have hperform := h.perform haction hentry
    exact ⟨hperform.modules, hperform.loader, hperform.stdin, hperform.stream⟩
  | some entry =>
    have hkept : Kept session (session.step action).2.2 := kept_of_entry hentry
    obtain ⟨hstdin, hstream⟩ := spent_of_entry session hentry
    refine ⟨hkept.registry ▸ h.modules, fun prepared hprepared => ?_, hstdin.quiet h.stdin, fun name => ?_⟩
    · exact h.loader prepared (hkept.loader.symm.trans hprepared)
    · exact (hstream name).quiet (h.stream name)

/-- At every place of a run the session is quiet. -/
theorem Quiet.reached (h : session.Quiet) {actions : List Action} (hactions : ∀ action ∈ actions, action.Quiet)
    (n : Nat) : (session.reached actions n).Quiet := by
  induction n with
  | zero =>
    rw [reached_zero]
    exact h
  | succ n ih =>
    cases haction : actions[n]? with
    | none =>
      rw [reached_succ_of_none haction]
      exact ih
    | some action =>
      rw [reached_succ haction]
      exact ih.step (hactions action (List.mem_of_getElem? haction))

/-- The loader that a request goes to builds quiet compilers. -/
theorem Quiet.received (h : session.Quiet) (hreceived : (session.received entry).1.result = .ok loader) :
    loader.factory.Quiet := by
  obtain ⟨-, prepared, hprepared, rfl⟩ | ⟨-, prepared, hprepared, rfl⟩ := received_eq_ok hreceived
  · exact h.loader prepared hprepared _
  · exact Loader.fromEnvironment_quiet h.modules hprepared _

end Session

end FactIntake
