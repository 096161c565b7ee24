import FactIntake.Proofs.InputIsolation
import FactIntake.Proofs.LogLines

/-!
Which configuration a logged event meets. The level is that of the latest one that was accepted, and a
level that is not known changes nothing. The format is that of the configuration under which the component
of the event logged for the first time: a component that logged before another format was asked for goes on
in the old one.
-/

namespace FactIntake

/-- The configuration that an action puts in force, if its level is known. -/
def Action.configuration? : Action → Option (Level × LineFormat)
  | .configureLogging options =>
    (Journal.level? options.level).map fun level => (level, options.format)
  | _ => none

/-- The latest configuration that some of the actions put in force. -/
def latestConfiguration (actions : List Action) : Option (Level × LineFormat) :=
  (actions.filterMap Action.configuration?).getLast?

theorem latestConfiguration_concat (actions : List Action) (action : Action) :
    latestConfiguration (actions ++ [action]) = action.configuration?.or (latestConfiguration actions) := by
  unfold latestConfiguration
  rw [List.filterMap_append, List.getLast?_append]
  cases haction : action.configuration? with
  | none => simp [haction]
  | some configuration => simp [haction]

namespace Session

variable {session : Session} {action : Action} {actions : List Action}

section

variable [Codecs]

theorem perform_journal (session : Session) (action : Action) :
    (session.perform action).2.journal =
      { session.journal with
        current := action.configuration?.or session.journal.current } := by
  have hentry : ∀ {entry}, action.entry? = some entry →
      (session.perform action).2.journal = session.journal := by
    intro entry hentry
    obtain ⟨imports, stdin, streams, hperform⟩ := perform_entry_session session hentry
    rw [hperform]
  have hinstall : ∀ (built : Report Loader.Prepared) imports,
      (session.install built imports).2.journal = session.journal := by
    intro built imports
    unfold install
    simp only
    split <;> rfl
  cases action with
  | compileFile receiver path => exact hentry rfl
  | compileStream receiver source label => exact hentry rfl
  | compileText receiver text label => exact hentry rfl
  | load request => exact hentry rfl
  | create factory given =>
    simp only [perform, create]
    split
    · rfl
    · exact hinstall _ _
  | createDefault =>
    simp only [perform]
    exact hinstall _ _
  | resolve reference =>
    simp only [perform]
    rfl
  | settings | assign =>
    simp only [perform]
    split <;> rfl
  | configureLogging options =>
    simp only [perform, Journal.configure, Action.configuration?]
    cases Journal.level? options.level <;> rfl
  | define | peek | peekStdin | replaceStdin | setVariable | place | remove | draft => rfl

/-- What puts a configuration in force logs nothing. -/
theorem events_of_configuration (h : action.configuration? ≠ none) :
    (session.step action).1.events = [] := by
  cases action with
  | configureLogging options =>
    simp only [step, perform]
    split <;> rfl
  | _ => exact absurd rfl h

/-- The events of an action meet the configuration in force before it. -/
theorem step_records (session : Session) (action : Action) :
    (session.step action).2.1 = (session.journal.recordAll (session.step action).1.events).1 := by
  by_cases hconfiguration : action.configuration? = none
  · have hjournal : (session.perform action).2.journal = session.journal := by
      rw [perform_journal, hconfiguration, Option.none_or]
    simp only [step, hjournal]
  · have hevents : (session.perform action).1.events = [] := events_of_configuration hconfiguration
    simp only [step, hevents]
    rfl

theorem step_current (session : Session) (action : Action) :
    (session.step action).2.2.journal.current =
      action.configuration?.or session.journal.current := by
  simp only [step, Journal.recordAll_current, perform_journal]

/-- The component logged an event. -/
def Logs (report : Report Answer) (component : Component) : Prop :=
  ∃ event ∈ report.events, event.component = component

instance (report : Report Answer) (component : Component) : Decidable (Logs report component) :=
  inferInstanceAs (Decidable (∃ event ∈ report.events, event.component = component))

/-- Each component keeps its format, and one without gets that of the configuration it logs under. -/
theorem step_lookup (session : Session) (action : Action) (component : Component) :
    (session.step action).2.2.journal.kept.lookup component =
      (session.journal.kept.lookup component).or
        (session.journal.current.bind fun configuration =>
          if Logs (session.step action).1 component then some configuration.2 else none) := by
  by_cases hconfiguration : action.configuration? = none
  · have hjournal : (session.perform action).2.journal = session.journal := by
      rw [perform_journal, hconfiguration, Option.none_or]
    cases hcurrent : session.journal.current with
    | none =>
      simp only [step, hjournal, Journal.recordAll_of_unconfigured hcurrent, Option.bind_none, Option.or_none]
    | some configuration =>
      simp only [step, hjournal, Option.bind_some]
      exact Journal.recordAll_lookup hcurrent _ component
  · have hevents : (session.perform action).1.events = [] := events_of_configuration hconfiguration
    have hsilent : ¬ Logs (session.perform action).1 component := by
      rintro ⟨event, hevent, -⟩
      rw [hevents] at hevent
      exact List.not_mem_nil hevent
    simp only [step, hevents, Journal.recordAll, perform_journal, hsilent, if_false]
    cases session.journal.current <;> simp

/-- The session that the first actions of a run leave. -/
def reached (session : Session) (actions : List Action) (n : Nat) : Session :=
  (session.run (actions.take n)).2

theorem run_cons (session : Session) (action : Action) (actions : List Action) :
    session.run (action :: actions) =
      (((session.step action).1, (session.step action).2.1) ::
        ((session.step action).2.2.run actions).1, ((session.step action).2.2.run actions).2) := by
  simp only [run]

theorem reached_zero (session : Session) (actions : List Action) :
    session.reached actions 0 = session := by
  simp only [reached, List.take_zero, run]

theorem reached_cons_succ (session : Session) (first : Action) (actions : List Action) (n : Nat) :
    session.reached (first :: actions) (n + 1) = (session.step first).2.2.reached actions n := by
  simp only [reached, List.take_succ_cons, run_cons]

theorem run_getElem? (session : Session) (actions : List Action) (n : Nat) :
    (session.run actions).1[n]? = actions[n]?.map fun action =>
      (((session.reached actions n).step action).1, ((session.reached actions n).step action).2.1) := by
  induction actions generalizing session n with
  | nil => simp only [run, List.getElem?_nil, Option.map_none]
  | cons first actions ih =>
    rw [run_cons]
    cases n with
    | zero => simp only [reached_zero, List.getElem?_cons_zero, Option.map_some]
    | succ n =>
      simp only [reached_cons_succ, List.getElem?_cons_succ]
      exact ih (session.step first).2.2 n

theorem reached_succ {n : Nat} (h : actions[n]? = some action) :
    session.reached actions (n + 1) = ((session.reached actions n).step action).2.2 := by
  induction actions generalizing session n with
  | nil => simp at h
  | cons first actions ih =>
    rw [reached_cons_succ]
    cases n with
    | zero =>
      rw [List.getElem?_cons_zero] at h
      obtain rfl := Option.some.inj h
      rw [reached_zero, reached_zero]
    | succ n =>
      rw [List.getElem?_cons_succ] at h
      rw [reached_cons_succ]
      exact ih h

theorem reached_succ_of_none {n : Nat} (h : actions[n]? = none) :
    session.reached actions (n + 1) = session.reached actions n := by
  have hlength : actions.length ≤ n := List.getElem?_eq_none_iff.mp h
  unfold reached
  rw [List.take_of_length_le hlength, List.take_of_length_le (Nat.le_succ_of_le hlength)]

/-- In the action at this place of a run the component logs under a configuration with this format. -/
def LogsAt (session : Session) (actions : List Action) (component : Component) (n : Nat)
    (format : LineFormat) : Prop :=
  ∃ level report records, latestConfiguration (actions.take n) = some (level, format) ∧
    (session.run actions).1[n]? = some (report, records) ∧ Logs report component

/-- Before this place of a run the component logged under a configuration, and this is the format of the
first under which it did. -/
def FirstFormat (session : Session) (actions : List Action) (component : Component) (place : Nat)
    (format : LineFormat) : Prop :=
  ∃ n < place, LogsAt session actions component n format ∧
    ∀ earlier < n, ∀ other, ¬ LogsAt session actions component earlier other

theorem LogsAt.unique {component : Component} {n : Nat} {format other : LineFormat}
    (h : LogsAt session actions component n format)
    (hother : LogsAt session actions component n other) : format = other := by
  obtain ⟨level, -, -, hlatest, -, -⟩ := h
  obtain ⟨otherLevel, -, -, hotherLatest, -, -⟩ := hother
  rw [hlatest] at hotherLatest
  exact congrArg Prod.snd (Option.some.inj hotherLatest)

theorem FirstFormat.unique {component : Component} {place : Nat} {format other : LineFormat}
    (h : FirstFormat session actions component place format)
    (hother : FirstFormat session actions component place other) : format = other := by
  obtain ⟨n, -, hlogs, hfirst⟩ := h
  obtain ⟨m, -, hotherLogs, hotherFirst⟩ := hother
  rcases Nat.lt_trichotomy n m with hlt | rfl | hgt
  · exact absurd hlogs (hotherFirst n hlt format)
  · exact hlogs.unique hotherLogs
  · exact absurd hotherLogs (hfirst m hgt other)

theorem FirstFormat.later {component : Component} {place later : Nat} {format : LineFormat}
    (h : FirstFormat session actions component place format) (hplace : place ≤ later) :
    FirstFormat session actions component later format := by
  obtain ⟨n, hn, hlogs, hfirst⟩ := h
  exact ⟨n, Nat.lt_of_lt_of_le hn hplace, hlogs, hfirst⟩

theorem logsAt_iff {component : Component} {n : Nat} {format : LineFormat}
    (haction : actions[n]? = some action) :
    LogsAt session actions component n format ↔
      (∃ level, latestConfiguration (actions.take n) = some (level, format)) ∧
        Logs ((session.reached actions n).step action).1 component := by
  have hreport := run_getElem? session actions n
  rw [haction, Option.map_some] at hreport
  constructor
  · rintro ⟨level, report, records, hlatest, hfound, hlogs⟩
    rw [hreport] at hfound
    obtain ⟨rfl, rfl⟩ := Prod.mk.inj (Option.some.inj hfound)
    exact ⟨⟨level, hlatest⟩, hlogs⟩
  · rintro ⟨⟨level, hlatest⟩, hlogs⟩
    exact ⟨level, _, _, hlatest, hreport, hlogs⟩

theorem not_logsAt_of_none {component : Component} {n : Nat} {format : LineFormat}
    (haction : actions[n]? = none) : ¬ LogsAt session actions component n format := by
  rintro ⟨level, report, records, -, hreport, -⟩
  rw [run_getElem?, haction] at hreport
  simp at hreport

/-- What the journal of a session knows of the run that led to it. -/
structure Remembers (session : Session) (actions : List Action) (place : Nat) (journal : Journal) :
    Prop where
  current : journal.current = latestConfiguration (actions.take place)
  kept : ∀ component format, journal.kept.lookup component = some format →
    FirstFormat session actions component place format
  silent : ∀ component, journal.kept.lookup component = none →
    ∀ n < place, ∀ format, ¬ LogsAt session actions component n format

theorem Remembers.step {n : Nat} (haction : actions[n]? = some action)
    (h : Remembers session actions n (session.reached actions n).journal) :
    Remembers session actions (n + 1) (session.reached actions (n + 1)).journal := by
  rw [reached_succ haction]
  refine ⟨?current, ?kept, ?silent⟩
  case current =>
    rw [step_current, h.current, List.take_add_one, haction, Option.toList_some,
      latestConfiguration_concat]
  case kept =>
    intro component format hlookup
    rw [step_lookup] at hlookup
    cases hkept : (session.reached actions n).journal.kept.lookup component with
    | some old =>
      rw [hkept, Option.some_or] at hlookup
      obtain rfl := Option.some.inj hlookup
      exact (h.kept component old hkept).later (Nat.le_succ n)
    | none =>
      rw [hkept, Option.none_or, h.current] at hlookup
      obtain ⟨⟨level, used⟩, hlatest, hformat⟩ := Option.bind_eq_some_iff.mp hlookup
      split at hformat
      · rename_i hlogs
        obtain rfl := Option.some.inj hformat
        exact ⟨n, Nat.lt_succ_self n, (logsAt_iff haction).mpr ⟨⟨level, hlatest⟩, hlogs⟩,
          h.silent component hkept⟩
      · simp at hformat
  case silent =>
    intro component hlookup m hm format hlogsAt
    rw [step_lookup, Option.or_eq_none_iff] at hlookup
    obtain ⟨hkept, hnone⟩ := hlookup
    rcases Nat.lt_succ_iff_lt_or_eq.mp hm with hearlier | rfl
    · exact h.silent component hkept m hearlier format hlogsAt
    · obtain ⟨⟨level, hlatest⟩, hlogs⟩ := (logsAt_iff haction).mp hlogsAt
      rw [h.current, hlatest, Option.bind_some, if_pos hlogs] at hnone
      simp at hnone

theorem remembers (h : session.journal = .fresh) (actions : List Action) (n : Nat) :
    Remembers session actions n (session.reached actions n).journal := by
  induction n with
  | zero =>
    rw [reached_zero, h]
    refine ⟨rfl, ?_, ?_⟩
    · intro component format hlookup
      simp [Journal.fresh] at hlookup
    · intro component hlookup n hn
      omega
  | succ n ih =>
    cases haction : actions[n]? with
    | some action => exact ih.step haction
    | none =>
      have hlength : actions.length ≤ n := List.getElem?_eq_none_iff.mp haction
      rw [reached_succ_of_none haction]
      refine ⟨?_, ?_, ?_⟩
      · rw [ih.current, List.take_of_length_le hlength,
          List.take_of_length_le (Nat.le_succ_of_le hlength)]
      · intro component format hlookup
        exact (ih.kept component format hlookup).later (Nat.le_succ n)
      · intro component hlookup m hm format hlogsAt
        rcases Nat.lt_succ_iff_lt_or_eq.mp hm with hearlier | rfl
        · exact ih.silent component hlookup m hearlier format hlogsAt
        · exact not_logsAt_of_none haction hlogsAt

/-- A level that is not known is refused, and nothing is changed. -/
theorem step_unknown_level (session : Session) {options : LogOptions}
    (h : Journal.level? options.level = none) :
    session.step (.configureLogging options) =
      (.fail (Fault.valueFault ("unknown log level: " ++ options.level)), [], session) := by
  have hperform : session.perform (.configureLogging options) =
      (.fail (Fault.valueFault ("unknown log level: " ++ options.level)), session) := by
    simp only [perform, Journal.configure, h, Option.map_none]
  simp only [step, hperform, Report.fail, Journal.recordAll]
  rfl

/-- In a run that starts unconfigured, an event is written exactly if it is at or above the level of the
latest configuration that was accepted, and it is written in the format under which its component logged
for the first time, or in the latest one if it did not log before. So the lines are those that the latest
configuration asks for exactly if no component that logs one of them began under another format. -/
theorem latest_configuration_governs {session : Session} (h : session.journal = .fresh)
    (actions : List Action) :
    (∀ n report records, (session.run actions).1[n]? = some (report, records) →
      (latestConfiguration (actions.take n) = none → records = report.events.map .collected) ∧
      ∀ level format, latestConfiguration (actions.take n) = some (level, format) →
        (∃ used, records = Journal.lines level used report.events ∧
          (∀ component first, FirstFormat session actions component n first →
            used component = first) ∧
          ∀ component, (∀ first, ¬ FirstFormat session actions component n first) →
            used component = format) ∧
        (records = Journal.lines level (fun _ => format) report.events ↔
          ∀ event ∈ report.events, level.rank ≤ event.level.rank →
            ∀ first, FirstFormat session actions event.component n first → first = format)) ∧
    ∀ (other : Session) options, Journal.level? options.level = none →
      other.step (.configureLogging options) =
        (.fail (Fault.valueFault ("unknown log level: " ++ options.level)), [], other) := by
  refine ⟨?_, fun other options => step_unknown_level other⟩
  intro n report records hreport
  rw [run_getElem?] at hreport
  obtain ⟨action, haction, hstep⟩ := Option.map_eq_some_iff.mp hreport
  obtain ⟨rfl, rfl⟩ := Prod.mk.inj hstep
  have hremembers := remembers h actions n
  rw [step_records]
  constructor
  · intro hnone
    rw [Journal.recordAll_of_unconfigured (hremembers.current.trans hnone)]
  · intro level format hlatest
    have hcurrent := hremembers.current.trans hlatest
    have hfirst : ∀ component first, FirstFormat session actions component n first →
        (session.reached actions n).journal.formatFor component format = first := by
      intro component first hfirst
      cases hkept : (session.reached actions n).journal.kept.lookup component with
      | some old =>
        rw [Journal.formatFor, hkept]
        exact (hremembers.kept component old hkept).unique hfirst
      | none =>
        obtain ⟨m, hm, hlogs, -⟩ := hfirst
        exact absurd hlogs (hremembers.silent component hkept m hm first)
    have hlater : ∀ component, (∀ first, ¬ FirstFormat session actions component n first) →
        (session.reached actions n).journal.formatFor component format = format := by
      intro component hnone
      cases hkept : (session.reached actions n).journal.kept.lookup component with
      | some old => exact absurd (hremembers.kept component old hkept) (hnone old)
      | none => rw [Journal.formatFor, hkept, Option.getD_none]
    have hlines := Journal.recordAll_of_configured hcurrent
      ((session.reached actions n).step action).1.events
    refine ⟨⟨fun component => (session.reached actions n).journal.formatFor component format,
      hlines, hfirst, hlater⟩, ?_⟩
    rw [hlines]
    refine Iff.trans Journal.lines_eq_iff ?_
    refine forall_congr' fun event => forall_congr' fun hevent => forall_congr' fun hlevel => ?_
    constructor
    · intro hused first hfirstFormat
      exact (hfirst event.component first hfirstFormat).symm.trans hused
    · intro hall
      by_cases hlogged : ∃ first, FirstFormat session actions event.component n first
      · obtain ⟨first, hfirstFormat⟩ := hlogged
        exact (hfirst event.component first hfirstFormat).trans (hall first hfirstFormat)
      · exact hlater event.component (not_exists.mp hlogged)

end

/-- A session with nothing in it, in which logging is not configured. -/
def unconfigured : Session :=
  { registry := fun _ => none, imports := .empty, disk := ⟨[], []⟩, environment := ⟨none, none⟩,
    stdin := .nothing, streams := [], loader := none, journal := .fresh }

/-- Asks for lines of objects, or for lines to be read. -/
def asking (json : Bool) : Action := .configureLogging ⟨"INFO", ⟨json, false⟩⟩

/-- Builds a fault whose details are logged, and drops it. -/
def detailed : Action := .draft (.facts "m" (some "d"))

def detailEvent : Event := .factsError "FactsError" "m" "d"

theorem configuration_asking (json : Bool) :
    (asking json).configuration? = some (.info, ⟨json, false⟩) := by
  have hlevel : Journal.level? "INFO" = some .info := by rfl
  simp only [asking, Action.configuration?, hlevel, Option.map_some]

/-- A component that logs for the first time after two configurations uses the second. -/
theorem unused_format_forgotten :
    ((unconfigured.run [asking true, asking false, detailed]).1[2]?).map (·.2) =
      some [.line ((LineFormat.mk false false).write detailEvent)] := by
  have hrun : (unconfigured.run [asking true, asking false, detailed]).1[2]? =
      some (⟨.ok .done, [], [detailEvent], []⟩, _) := rfl
  have hlatest : latestConfiguration ([asking true, asking false, detailed].take 2) =
      some (.info, ⟨false, false⟩) := by
    simp only [latestConfiguration, List.take_succ_cons, List.take_zero, List.filterMap_cons,
      configuration_asking]
    rfl
  have hsilent : ∀ component first,
      ¬ FirstFormat unconfigured [asking true, asking false, detailed] component 2 first := by
    rintro component first ⟨n, hn, hlogs, -⟩
    obtain ⟨action, haction, hasked⟩ : ∃ action,
        [asking true, asking false, detailed][n]? = some action ∧ action.configuration? ≠ none := by
      obtain rfl | rfl : n = 0 ∨ n = 1 := by omega
      · exact ⟨asking true, rfl, by simp [configuration_asking]⟩
      · exact ⟨asking false, rfl, by simp [configuration_asking]⟩
    obtain ⟨event, hevent, -⟩ := ((logsAt_iff haction).mp hlogs).2
    rw [events_of_configuration hasked] at hevent
    exact List.not_mem_nil hevent
  have hfresh : unconfigured.journal = .fresh := rfl
  obtain ⟨hgoverns, -⟩ := latest_configuration_governs hfresh [asking true, asking false, detailed]
  have hlines := ((hgoverns 2 _ _ hrun).2 _ _ hlatest).2.mpr
    fun event _ _ first hfirst => absurd hfirst (hsilent event.component first)
  rw [hrun, hlines]
  rfl

/-- A component that logged goes on in the format that it began with. -/
theorem used_format_outlives :
    latestConfiguration ([asking true, detailed, asking false, detailed].take 3) =
        some (.info, ⟨false, false⟩) ∧
    (unconfigured.run [asking true, detailed, asking false, detailed]).1[3]? =
      some (⟨.ok .done, [], [detailEvent], []⟩,
        [.line ((LineFormat.mk true false).write detailEvent)]) ∧
    [Record.line ((LineFormat.mk true false).write detailEvent)] ≠
      Journal.lines .info (fun _ => ⟨false, false⟩) [detailEvent] := by
  refine ⟨by rfl, rfl, ?_⟩
  intro hsame
  have hold : [Record.line ((LineFormat.mk true false).write detailEvent)] =
      Journal.lines .info (fun _ => ⟨true, false⟩) [detailEvent] := rfl
  have hformats := Journal.lines_eq_iff.mp (hold.symm.trans hsame) detailEvent
    List.mem_cons_self (by decide)
  exact absurd hformats (by decide)

end Session

end FactIntake
