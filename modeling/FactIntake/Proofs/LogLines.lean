import FactIntake.Journal

/-!
The lines of logged events. Each format writes an event in its own way, so that a line tells its format. A
journal that is configured writes the events at or above its level, each in the format that its component
keeps, and a component without one keeps the format in force when it logs.
-/

namespace FactIntake

theorem length_intercalate_insert (sep part : List Char) (before : List (List Char))
    {after : List (List Char)} (hafter : after ≠ []) (hsep : sep ≠ []) :
    (sep.intercalate (before ++ after)).length < (sep.intercalate (before ++ part :: after)).length := by
  induction before with
  | nil =>
    have hlonger : 0 < sep.length := List.length_pos_iff.mpr hsep
    rw [List.nil_append, List.nil_append, List.intercalate_cons_of_ne_nil hafter]
    simp only [List.length_append]
    omega
  | cons first before ih =>
    have hshort : before ++ after ≠ [] := List.append_ne_nil_of_right_ne_nil before hafter
    have hlong : before ++ part :: after ≠ [] := List.append_ne_nil_of_right_ne_nil before (by simp)
    rw [List.cons_append, List.cons_append, List.intercalate_cons_of_ne_nil hshort,
      List.intercalate_cons_of_ne_nil hlong]
    simp only [List.length_append]
    omega

/-- A field and its value, as they stand in an object on one line. -/
def Json.memberChars (member : String × Json) : List Char :=
  Json.textChars .ascii member.1 ++ ':' :: ' ' :: Json.inlineChars member.2

theorem Json.writeInline_toList (members : List (String × Json)) :
    (Json.writeInline members).toList =
      '{' :: [',', ' '].intercalate (members.map Json.memberChars) ++ ['}'] :=
  String.toList_ofList

/-- One more member makes an object longer. -/
theorem Json.writeInline_insert_ne (before : List (String × Json)) (member : String × Json)
    {after : List (String × Json)} (hafter : after ≠ []) :
    Json.writeInline (before ++ after) ≠ Json.writeInline (before ++ member :: after) := by
  intro hsame
  have hchars := congrArg String.toList hsame
  rw [Json.writeInline_toList, Json.writeInline_toList] at hchars
  have hlength := congrArg List.length hchars
  have hrest : after.map Json.memberChars ≠ [] := by
    intro hnil
    exact hafter (List.map_eq_nil_iff.mp hnil)
  have hlonger := length_intercalate_insert [',', ' '] (Json.memberChars member)
    (before.map Json.memberChars) hrest (List.cons_ne_nil ',' [' '])
  simp only [List.map_append, List.map_cons, List.length_append, List.length_cons] at hlength
  omega

namespace LineFormat

/-- What a line begins with. -/
def mark (format : LineFormat) : Char :=
  if format.json then '{' else if format.timestamps then '<' else '['

theorem write_head (format : LineFormat) (event : Event) :
    (format.write event).toList.head? = some format.mark := by
  obtain ⟨json, timestamps⟩ := format
  cases json with
  | true => simp [write, mark, Json.writeInline]
  | false => cases timestamps <;> simp [write, mark, timestamp]

theorem write_json_ne (event : Event) :
    (LineFormat.mk true false).write event ≠ (LineFormat.mk true true).write event := by
  have hinsert := Json.writeInline_insert_ne (event.fields ++ [("event", .text event.name)])
    ("timestamp", .text timestamp)
    (List.cons_ne_nil ("level", .text event.level.name) [("logger", .text event.component.name)])
  rw [List.append_assoc, List.append_assoc] at hinsert
  exact hinsert

/-- An event has another line in each format. -/
theorem write_injective (event : Event) {format other : LineFormat}
    (h : format.write event = other.write event) : format = other := by
  have hmark : format.mark = other.mark := by
    have hhead := write_head format event
    rw [h, write_head other event] at hhead
    exact (Option.some.inj hhead).symm
  obtain ⟨json, timestamps⟩ := format
  obtain ⟨otherJson, otherTimestamps⟩ := other
  cases json <;> cases timestamps <;> cases otherJson <;> cases otherTimestamps <;>
    simp [mark] at hmark ⊢
  · exact write_json_ne event h
  · exact write_json_ne event h.symm

end LineFormat

namespace Journal

variable {journal : Journal} {level : Level} {format : LineFormat}

/-- The lines of the events at or above a level, each in the format that its component uses. -/
def lines (level : Level) (used : Component → LineFormat) (events : List Event) : List Record :=
  (events.filter fun event => level.rank ≤ event.level.rank).map fun event =>
    .line ((used event.component).write event)

theorem lines_eq_iff {used other : Component → LineFormat} {events : List Event} :
    lines level used events = lines level other events ↔
      ∀ event ∈ events, level.rank ≤ event.level.rank →
        used event.component = other event.component := by
  unfold lines
  rw [List.map_inj_left]
  constructor
  · intro hsame event hevent hlevel
    have hline := hsame event (List.mem_filter.mpr ⟨hevent, decide_eq_true hlevel⟩)
    exact LineFormat.write_injective event (Record.line.inj hline)
  · intro hsame event hevent
    obtain ⟨hmem, hlevel⟩ := List.mem_filter.mp hevent
    rw [hsame event hmem (of_decide_eq_true hlevel)]

theorem recordAll_of_unconfigured (h : journal.current = none) (events : List Event) :
    journal.recordAll events = (events.map .collected, journal) := by
  induction events with
  | nil => rfl
  | cons event events ih =>
    have hrecord : journal.record event = (some (.collected event), journal) := by
      simp only [record, h]
    simp only [recordAll, hrecord, ih, Option.toList_some, List.singleton_append, List.map_cons]

theorem record_of_configured (h : journal.current = some (level, format)) (event : Event) :
    journal.record event =
      (if level.rank ≤ event.level.rank then
          some (.line ((journal.formatFor event.component format).write event)) else none,
        journal.keep event.component (journal.formatFor event.component format)) := by
  simp only [record, h]

theorem keep_current (component : Component) (used : LineFormat) :
    (journal.keep component used).current = journal.current := by
  unfold keep
  split <;> rfl

/-- A component that has a format keeps it, and one that has none is given this one. -/
theorem keep_lookup (component other : Component) (used : LineFormat) :
    (journal.keep component used).kept.lookup other =
      (journal.kept.lookup other).or (if component = other then some used else none) := by
  unfold keep
  cases hkept : journal.kept.lookup component with
  | some old =>
    by_cases hsame : component = other
    · subst hsame
      simp [hkept]
    · simp [hsame]
  | none =>
    simp only [List.lookup_append]
    by_cases hsame : component = other
    · subst hsame
      simp
    · have hne : (other == component) = false := by
        simpa using Ne.symm hsame
      simp [List.lookup_cons, hne, hsame]

/-- An event leaves the format that any component would use as it is. -/
theorem formatFor_keep (component other : Component) :
    (journal.keep component (journal.formatFor component format)).formatFor other format =
      journal.formatFor other format := by
  unfold formatFor
  rw [keep_lookup]
  by_cases hsame : component = other
  · subst hsame
    cases journal.kept.lookup component <;> simp
  · rw [if_neg hsame, Option.or_none]

theorem recordAll_current (journal : Journal) (events : List Event) :
    (journal.recordAll events).2.current = journal.current := by
  induction events generalizing journal with
  | nil => rfl
  | cons event events ih =>
    have hrecord : (journal.record event).2.current = journal.current := by
      unfold record
      split
      · rfl
      · exact keep_current _ _
    exact (ih (journal.record event).2).trans hrecord

/-- Under a configuration the events at or above its level are written, each in the format that its
component keeps or would be given. -/
theorem recordAll_of_configured (h : journal.current = some (level, format)) (events : List Event) :
    (journal.recordAll events).1 =
      lines level (fun component => journal.formatFor component format) events := by
  induction events generalizing journal with
  | nil => rfl
  | cons event events ih =>
    have hkeep := ih ((keep_current event.component (journal.formatFor event.component format)).trans h)
    simp only [formatFor_keep] at hkeep
    simp only [recordAll, record_of_configured h, hkeep]
    by_cases hlevel : level.rank ≤ event.level.rank
    · simp [lines, hlevel]
    · simp [lines, hlevel]

theorem recordAll_lookup (h : journal.current = some (level, format)) (events : List Event)
    (component : Component) :
    (journal.recordAll events).2.kept.lookup component =
      (journal.kept.lookup component).or
        (if ∃ event ∈ events, event.component = component then some format else none) := by
  induction events generalizing journal with
  | nil => simp [recordAll]
  | cons event events ih =>
    have hlater := ih ((keep_current event.component (journal.formatFor event.component format)).trans h)
    simp only [recordAll, record_of_configured h, hlater, keep_lookup]
    cases hkept : journal.kept.lookup component with
    | some old => simp
    | none =>
      by_cases hsame : event.component = component
      · subst hsame
        simp [formatFor, hkept]
      · simp [hsame]

end Journal

end FactIntake
