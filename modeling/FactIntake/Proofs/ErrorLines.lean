import FactIntake.Command.Exit
import FactIntake.Proofs.EscapedText
import FactIntake.Proofs.SuccessLines

/-!
Lines of bad news. The message is escaped before it is shown behind its sign. So no tag in it is read as
one, and the line can always be shown; but emoji codes, brackets with a backslash before them, tabs and
some controls do not come out as they are, and a single backslash at the end comes out twice.
-/

namespace FactIntake

namespace Console

variable {cs last : List Char} {stretches : List Stretch} {c : Char}

/-- Text that comes out as it is when it is escaped and shown: between its tags nothing is markup, and
in none of its tags there is a known emoji code. -/
inductive Survives : List Char → Prop
  | plain {cs : List Char} (h : HasNoMarkup cs) : Survives cs
  | tagged {before tag rest : List Char} (hbefore : HasNoMarkup before) (htag : IsTag tag)
      (hemoji : replaceEmoji tag = tag) (hrest : Survives rest) : Survives (before ++ tag ++ rest)

theorem survives_cons_iff (hc : isMark c = false) : Survives (c :: cs) ↔ Survives cs := by
  have hmarks : marks [c] = 0 := by simp [marks, hc]
  constructor
  · generalize hwhole : c :: cs = whole
    intro h
    cases h with
    | plain h =>
      rw [← hwhole] at h
      exact .plain ((hasNoMarkup_append_iff hmarks).mp h)
    | @tagged before tag rest hbefore htag hemoji hrest =>
      cases before with
      | nil =>
        obtain ⟨d, body, -, -, -, rfl⟩ := htag
        obtain rfl : c = '[' := (List.cons.inj hwhole).1
        cases hc
      | cons first before =>
        obtain ⟨rfl, rfl⟩ := List.cons.inj hwhole
        exact .tagged ((hasNoMarkup_append_iff hmarks).mp hbefore) htag hemoji hrest
  · intro h
    cases h with
    | plain h => exact .plain ((hasNoMarkup_append_iff hmarks).mpr h)
    | tagged hbefore htag hemoji hrest =>
      exact .tagged ((hasNoMarkup_append_iff hmarks).mpr hbefore) htag hemoji hrest

theorem Survives.exists_stretches (h : Survives cs) :
    ∃ stretches last, HasNoTag last ∧ textOf stretches last = cs ∧ shownOf stretches last = cs := by
  induction h with
  | @plain cs h =>
    refine ⟨[], cs, (hasNoTag_iff cs).mpr h.tags, rfl, ?_⟩
    show replaceEmoji (unescapeBrackets cs) = cs
    rw [(unescapeBrackets_eq_self_iff cs).mpr h.escapes, h.emoji]
  | @tagged before tag rest hbefore htag hemoji hrest ih =>
    obtain ⟨stretches, last, hlast, htext, hshown⟩ := ih
    obtain ⟨front, n, rfl, hfront⟩ := exists_backslashes before
    have hplain := (hasNoMarkup_append_backslashes n).mp hbefore
    have hisTag := htag
    obtain ⟨c, body, -, -, -, rfl⟩ := htag
    refine ⟨⟨front, n, c :: body, (hasNoTag_iff front).mpr hplain.tags, hfront, hisTag⟩ :: stretches, last, hlast,
      ?_, ?_⟩
    · simp [htext, Stretch.text]
    · simp [hshown, Stretch.shown, (unescapeBrackets_eq_self_iff front).mpr hplain.escapes, hplain.emoji, hemoji]

/-- Where a text does not come out as it is, it loses marks. -/
theorem marks_shownOf (stretches : List Stretch) (hlast : HasNoTag last) :
    marks (shownOf stretches last) ≤ marks (textOf stretches last) ∧
      (Survives (textOf stretches last) ∨ marks (shownOf stretches last) < marks (textOf stretches last)) := by
  induction stretches with
  | nil =>
    refine ⟨(plain_keepsOrLoses last).marks_le, ?_⟩
    rcases hasNoMarkup_or_loses hlast with hplain | hless
    · exact Or.inl (.plain hplain)
    · exact Or.inr hless
  | cons stretch stretches ih =>
    obtain ⟨hle, hstretch⟩ := stretch.marks_shown
    obtain ⟨hrestLe, hrest⟩ := ih
    rw [textOf_cons, shownOf_cons, marks_append, marks_append]
    refine ⟨Nat.add_le_add hle hrestLe, ?_⟩
    rcases hstretch with ⟨hfront, hemoji⟩ | hless
    · rcases hrest with hrest | hless
      · refine Or.inl ?_
        rw [Stretch.text, ← List.append_assoc]
        exact .tagged ((hasNoMarkup_append_backslashes _).mpr hfront) stretch.isTag hemoji hrest
      · exact Or.inr (by omega)
    · exact Or.inr (by omega)

/-- Whether a text comes out as it is can be decided by counting the marks that are left. -/
theorem survives_iff_marks (cs : List Char) :
    Survives cs ↔ marks cs ≤ marks (characters (pieces (escapeTagsUpTo cs.length cs))) := by
  have hleft : ∀ stretches last, HasNoTag last → textOf stretches last = cs →
      characters (pieces (escapeTagsUpTo cs.length cs)) = shownOf stretches last := by
    rintro stretches last hlast rfl
    rw [escapeTagsUpTo_textOf hlast (Nat.le_refl _)]
    exact (piecesUpTo_escapedOf stretches hlast (Nat.lt_succ_self _) 0).2
  constructor
  · intro h
    obtain ⟨stretches, last, hlast, htext, hshown⟩ := h.exists_stretches
    rw [hleft stretches last hlast htext, hshown]
  · intro h
    obtain ⟨stretches, last, hlast, htext⟩ := exists_stretches cs
    rw [hleft stretches last hlast htext] at h
    obtain ⟨-, hsurvives | hless⟩ := marks_shownOf stretches hlast
    · exact htext ▸ hsurvives
    · rw [htext] at hless
      exact absurd hless (not_lt.mpr h)

instance (cs : List Char) : Decidable (Survives cs) := decidable_of_iff _ (survives_iff_marks cs).symm

example : Survives "closing tag '[/bold]' at position 5".toList := by decide

/-- The sign of bad news. -/
def red : Sign where
  colour := ['r', 'e', 'd']
  character := '✗'
  isColour := ⟨by decide, by decide, by decide, by decide, by decide, by decide⟩
  nonempty := by decide
  letters := by decide
  trimmed := by decide
  unmarked := rfl
  kept := rfl

theorem error_eq (message : String) :
    error message = markupLine (red.markup ++ escape (' ' :: message.toList)) := by
  have hsign : "[red]✗[/red] ".toList = red.markup ++ [' '] := by decide
  rw [error, hsign, List.append_assoc, escape_cons rfl]
  rfl

/-- What is shown of a message behind its sign, cut at the tags. -/
def shownBehind (stretches : List Stretch) (last : List Char) : List Char :=
  Text.expandTabs ('✗' :: (shownOf stretches last).filter (!isDropped ·))

/-- A message can always be shown, and nothing is said against it. -/
theorem error_of_stretches {message : String} (hlast : HasNoTag last)
    (htext : textOf stretches last = ' ' :: message.toList) :
    error message = .plain (.ok (String.ofList
      (shownBehind stretches last ++ trailing (' ' :: message.toList) ++ ['\n']))) := by
  have hend : HasNoTag (last ++ trailing (textOf stretches last)) :=
    (hasNoTag_append_iff (notMem_trailing (by decide) _)).mpr hlast
  have hpieces := piecesUpTo_escapedOf stretches hend (red.laterPieces_fuel _) (2 * red.colour.length + 6)
  obtain ⟨hplain, hshown⟩ := hpieces
  rw [shownOf_append_trailing] at hshown
  have hkept : (trailing (textOf stretches last)).filter (!isDropped ·) = trailing (textOf stretches last) := by
    unfold trailing
    split <;> rfl
  have hline : Text.expandTabs ('✗' :: (shownOf stretches last).filter (!isDropped ·) ++
      trailing (textOf stretches last)) =
        shownBehind stretches last ++ trailing (textOf stretches last) :=
    Text.expandTabs_append (notMem_trailing (by decide) _) (notMem_trailing (by decide) _) _
  rw [error_eq, ← htext, escape_textOf stretches hlast, markupLine, red.render_of_plain hplain]
  simp only [Sign.laterPieces, hshown, List.filter_append, hkept]
  rw [← hline]
  rfl

theorem marks_shownBehind (stretches : List Stretch) (last : List Char) :
    marks (shownBehind stretches last) ≤ marks (shownOf stretches last) := by
  rw [shownBehind, marks, Text.countP_expandTabs rfl rfl rfl]
  exact List.filter_sublist.countP_le

theorem isShown_of_mem_shownBehind (h : c ∈ shownBehind stretches last) : isShown c := by
  obtain ⟨htab, rfl | rfl | hc⟩ := Text.mem_expandTabs h
  · rfl
  · rfl
  · rcases List.mem_cons.mp hc with rfl | hc
    · rfl
    · exact (isShown_iff c).mpr ⟨htab, by simpa using (List.mem_filter.mp hc).2⟩

/-- A backslash at the end stays there. -/
theorem shownBehind_append_backslash :
    shownBehind stretches (last ++ ['\\']) = shownBehind stretches last ++ ['\\'] := by
  have hshown : shownOf stretches (last ++ ['\\']) = shownOf stretches last ++ ['\\'] :=
    shownOf_append_trailing stretches last ['\\']
  rw [shownBehind, hshown, List.filter_append, ← List.cons_append]
  exact Text.expandTabs_append (by decide) (by decide) _

/-- A message that comes out as it is does not end in a single backslash, which would come out twice. -/
theorem endsInSingleBackslash_of_shown {message : List Char} (htext : textOf stretches last = ' ' :: message)
    (hsame : shownBehind stretches last ++ trailing (' ' :: message) = '✗' :: ' ' :: message) :
    endsInSingleBackslash message = false := by
  have hmessage := endsInSingleBackslash_cons (c := ' ') (by decide) message
  have hline := endsInSingleBackslash_cons (c := '✗') (by decide) (' ' :: message)
  by_contra hends
  rw [Bool.not_eq_false] at hends
  have hlast : endsInSingleBackslash last := by
    rw [← endsInSingleBackslash_textOf stretches, htext, hmessage, hends]
  obtain ⟨front, rfl⟩ := exists_of_endsInSingleBackslash hlast
  have htrailing : trailing (' ' :: message) = ['\\'] := by rw [trailing, if_pos (hmessage.trans hends)]
  rw [shownBehind_append_backslash, htrailing] at hsame
  rw [← hsame, hmessage, hends] at hline
  simp [endsInSingleBackslash] at hline

theorem line_eq_iff (cs : List Char) (message : String) :
    String.ofList (cs ++ ['\n']) = "✗ " ++ message ++ "\n" ↔ cs = '✗' :: ' ' :: message.toList := by
  have hline : ("✗ " ++ message ++ "\n").toList = '✗' :: ' ' :: message.toList ++ ['\n'] := by simp
  rw [← String.toList_inj, String.toList_ofList, hline, List.append_left_inj]

theorem shownBehind_of_shown {message : List Char} (hsame : shownOf stretches last = ' ' :: message)
    (hshown : message.all isShown) : shownBehind stretches last = '✗' :: ' ' :: message := by
  have hspace : (' ' :: message).all isShown := by
    rw [List.all_cons, hshown]
    rfl
  have htab : '\t' ∉ '✗' :: ' ' :: message := by
    have hnone := notMem_tab_of_shown hspace
    simpa using hnone
  rw [shownBehind, hsame, filter_of_shown hspace, Text.expandTabs_of_no_tab htab]

theorem error_of_survives {message : String} (h : Survives message.toList)
    (hshown : message.toList.all isShown) (hends : endsInSingleBackslash message.toList = false) :
    error message = .plain (.ok ("✗ " ++ message ++ "\n")) := by
  have hspace : Survives (' ' :: message.toList) := (survives_cons_iff rfl).mpr h
  obtain ⟨stretches, last, hlast, htext, hsame⟩ := hspace.exists_stretches
  have hmessage : endsInSingleBackslash (' ' :: message.toList) = false := by
    rw [endsInSingleBackslash_cons (by decide), hends]
  rw [error_of_stretches hlast htext, shownBehind_of_shown hsame hshown, trailing, hmessage]
  congr 2
  exact (line_eq_iff _ message).mpr (List.append_nil _)

theorem exists_error_line (message : String) : ∃ line, error message = .plain (.ok line) := by
  obtain ⟨stretches, last, hlast, htext⟩ := exists_stretches (' ' :: message.toList)
  exact ⟨_, error_of_stretches hlast htext⟩

theorem survives_of_error {message : String} (h : error message = .plain (.ok ("✗ " ++ message ++ "\n"))) :
    Survives message.toList ∧ message.toList.all isShown ∧ endsInSingleBackslash message.toList = false := by
  obtain ⟨stretches, last, hlast, htext⟩ := exists_stretches (' ' :: message.toList)
  rw [error_of_stretches hlast htext] at h
  have hsame := (line_eq_iff _ message).mp (Except.ok.inj (congrArg Printed.text h))
  have hends := endsInSingleBackslash_of_shown htext hsame
  have htrailing : trailing (' ' :: message.toList) = [] := by
    rw [trailing, endsInSingleBackslash_cons (by decide), hends]
    rfl
  rw [htrailing, List.append_nil] at hsame
  refine ⟨?_, ?_, hends⟩
  · have hkept : marks (' ' :: message.toList) ≤ marks (shownOf stretches last) := by
      have hle := marks_shownBehind stretches last
      rw [hsame] at hle
      exact hle
    obtain ⟨-, hsurvives | hless⟩ := marks_shownOf stretches hlast
    · rw [htext] at hsurvives
      exact (survives_cons_iff rfl).mp hsurvives
    · rw [htext] at hless
      exact absurd hless (not_lt.mpr hkept)
  · refine List.all_eq_true.mpr fun c hc => ?_
    have hmem : c ∈ shownBehind stretches last := hsame ▸ .tail _ (.tail _ hc)
    exact isShown_of_mem_shownBehind hmem

end Console

namespace Exit

/-- A message that ends the command can always be shown, whatever stands in it. It is shown as it is
exactly if it comes out as it is when it is escaped, no tab and no dropped control is in it, and it does
not end in a single backslash. -/
theorem message_shown_verbatim_iff (message : String) (code : Int) :
    ∃ line, shown (.ended message code) = .plain (.ok line) ∧
      (line = "✗ " ++ message ++ "\n" ↔
        Console.Survives message.toList ∧ message.toList.all Console.isShown ∧
          Console.endsInSingleBackslash message.toList = false) := by
  have hshown : shown (.ended message code) = Console.error message := rfl
  obtain ⟨line, hline⟩ := Console.exists_error_line message
  refine ⟨line, hshown.trans hline, ?_, ?_⟩
  · rintro rfl
    exact Console.survives_of_error hline
  · rintro ⟨hsurvives, hplain, hends⟩
    have hverbatim := Console.error_of_survives hsurvives hplain hends
    exact Except.ok.inj (congrArg Console.Printed.text (hline.symm.trans hverbatim))

/-- A place in a source whose line number is the name of an emoji. -/
theorem location_line_altered :
    (shown (.ended "In m.cql bad\n  at m.cql:100:5" 1)).text ≠ .ok "✗ In m.cql bad\n  at m.cql:100:5\n" := by
  obtain ⟨line, hline⟩ := Console.exists_error_line "In m.cql bad\n  at m.cql:100:5"
  intro htext
  have hsame : Except.ok line = Except.ok ("✗ " ++ "In m.cql bad\n  at m.cql:100:5" ++ "\n") :=
    (congrArg Console.Printed.text hline).symm.trans htext
  rw [Except.ok.inj hsame] at hline
  exact absurd (Console.survives_of_error hline).1 (by decide)

end Exit

end FactIntake
