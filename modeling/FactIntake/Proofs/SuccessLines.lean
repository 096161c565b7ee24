import FactIntake.Proofs.SignedLines
import FactIntake.Proofs.TabStops
import Mathlib.Data.List.Forall2

/-!
Lines of good news. The sign in front is coloured by tags of its own, which are opened and closed before the
message begins. So the message is shown by itself, and it is shown as it is if and only if nothing in it is
markup, is dropped by the console or is filled up to a tab stop.
-/

namespace FactIntake

namespace Console

/-- The sign with its tags. -/
def sign : List Char :=
  ['[', 'g', 'r', 'e', 'e', 'n', ']', '✓', '[', '/', 'g', 'r', 'e', 'e', 'n', ']']

theorem success_eq (message : String) : success message = markupLine (sign ++ ' ' :: message.toList) := by
  have hsign : "[green]✓[/green] ".toList = sign ++ [' '] := by decide
  rw [success, hsign, List.append_assoc]
  rfl

/-- What follows the sign, in pieces. The sign is sixteen characters long, and three steps take it off. -/
def messagePieces (cs : List Char) : List Piece := piecesUpTo (cs.length + 14) 16 [] cs

/-- The sign of good news. -/
def green : Sign where
  colour := ['g', 'r', 'e', 'e', 'n']
  character := '✓'
  isColour := ⟨by decide, by decide, by decide, by decide, by decide, by decide⟩
  nonempty := by decide
  letters := by decide
  trimmed := by decide
  unmarked := rfl
  kept := rfl

theorem markup_green : green.markup = sign := rfl

/-- What is shown of a message, if it can be shown. -/
theorem characters_of_render {cs shown : List Char} {warnings later : Array Literal.Warning}
    (h : (render (sign ++ cs)).run warnings = (.ok shown, later)) :
    shown = '✓' :: (characters (messagePieces cs)).filter (!isDropped ·) := by
  rw [← markup_green] at h
  exact green.text_of_render h

theorem messagePieces_fuel (cs : List Char) : cs.length < cs.length + 14 := Nat.lt_add_of_pos_right (by decide)

theorem messagePieces_of_hasNoMarkup {cs : List Char} (h : HasNoMarkup cs) :
    messagePieces cs = plainPiece cs.reverse :=
  pieces_of_hasNoMarkup 16 (messagePieces_fuel cs) h

theorem render_of_hasNoMarkup {cs : List Char} (h : HasNoMarkup cs) (warnings : Array Literal.Warning) :
    (render (sign ++ cs)).run warnings = (.ok ('✓' :: cs.filter (!isDropped ·)), warnings) := by
  have hpieces : green.laterPieces cs = plainPiece cs.reverse := messagePieces_of_hasNoMarkup h
  have hplain : (green.laterPieces cs).all Piece.isPlain := by
    rw [hpieces]
    exact isPlain_plainPiece cs.reverse
  rw [← markup_green, green.render_of_plain hplain, hpieces, characters_of_hasNoMarkup h]
  rfl

/-- Whether a character is shown as it is where it is no markup: it is not dropped, and no tab. -/
def isShown (c : Char) : Bool := c != '\t' && !isDropped c

theorem isShown_iff (c : Char) : isShown c ↔ c ≠ '\t' ∧ isDropped c = false := by simp [isShown]

theorem filter_of_shown {cs : List Char} (h : cs.all isShown) : cs.filter (!isDropped ·) = cs := by
  refine List.filter_eq_self.mpr fun c hc => ?_
  simp [((isShown_iff c).mp (List.all_eq_true.mp h c hc)).2]

theorem notMem_tab_of_shown {cs : List Char} (h : cs.all isShown) : '\t' ∉ cs := fun hc =>
  ((isShown_iff _).mp (List.all_eq_true.mp h _ hc)).1 rfl

/-- Text that the console shows as it is. -/
structure Verbatim (cs : List Char) : Prop extends HasNoMarkup cs where
  shown : cs.all isShown

instance (cs : List Char) : Decidable (Verbatim cs) :=
  decidable_of_iff (HasNoMarkup cs ∧ cs.all isShown) ⟨fun h => ⟨h.1, h.2⟩, fun h => ⟨h.toHasNoMarkup, h.shown⟩⟩

theorem verbatim_append_iff {before cs : List Char} (hmarks : marks before = 0) (hshown : before.all isShown) :
    Verbatim (before ++ cs) ↔ Verbatim cs := by
  constructor
  · intro h
    exact ⟨(hasNoMarkup_append_iff hmarks).mp h.toHasNoMarkup, by simpa [hshown] using h.shown⟩
  · intro h
    exact ⟨(hasNoMarkup_append_iff hmarks).mpr h.toHasNoMarkup, by simpa [hshown] using h.shown⟩

theorem text_markupLine (markup : List Char) :
    (markupLine markup).text = (((render markup).run #[]).1.map lineOf).mapError markupFault := rfl

/-- The line of a message that is shown as it is. -/
def verbatimLine (message : String) : String := "✓ " ++ message ++ "\n"

theorem success_of_verbatim {message : String} (h : Verbatim message.toList) :
    (success message).text = .ok (verbatimLine message) := by
  have hspace : Verbatim (' ' :: message.toList) := by
    rw [← List.singleton_append]
    exact (verbatim_append_iff (by decide) (by decide)).mpr h
  have hkept := filter_of_shown hspace.shown
  have htab : '\t' ∉ '✓' :: ' ' :: message.toList := by
    have hnone := notMem_tab_of_shown hspace.shown
    simpa using hnone
  rw [success_eq, text_markupLine, render_of_hasNoMarkup hspace.toHasNoMarkup, hkept]
  show Except.ok (lineOf _) = _
  congr 1
  apply String.toList_inj.mp
  simp [lineOf, verbatimLine, Text.expandTabs_of_no_tab htab]

/-- A message that is shown at all: no tab and no dropped control is left of it, and where something in
it is markup it has lost marks. -/
theorem line_of_success {message line : String} (h : (success message).text = .ok line) :
    line.toList.all isShown ∧ marks line.toList ≤ marks message.toList ∧
      (HasNoMarkup message.toList ∨ marks line.toList < marks message.toList) := by
  rw [success_eq, text_markupLine] at h
  rcases hrender : (render (sign ++ ' ' :: message.toList)).run #[] with ⟨fault | shown, later⟩
  · rw [hrender] at h
    cases h
  rw [hrender] at h
  have hline : line.toList = Text.expandTabs shown ++ ['\n'] := by
    rw [← Except.ok.inj h, lineOf, String.toList_ofList]
  have hshown := characters_of_render hrender
  constructor
  · refine List.all_eq_true.mpr fun c hc => ?_
    rcases List.mem_append.mp (hline ▸ hc) with hc | hc
    · obtain ⟨htab, rfl | rfl | hc⟩ := Text.mem_expandTabs hc
      · decide
      · decide
      · rw [hshown] at hc
        rcases List.mem_cons.mp hc with rfl | hc
        · decide
        · exact (isShown_iff c).mpr ⟨htab, by simpa using (List.mem_filter.mp hc).2⟩
    · obtain rfl := List.mem_singleton.mp hc
      decide
  · have hmarks : marks line.toList ≤ marks (characters (messagePieces (' ' :: message.toList))) := by
      rw [hline, marks_append, marks, Text.countP_expandTabs rfl rfl rfl, hshown]
      exact List.filter_sublist.countP_le
    have hspace : marks [' '] = 0 := by decide
    have hmessage : marks (' ' :: message.toList) = marks message.toList := by
      rw [marks_cons, hspace, Nat.zero_add]
    rcases hasNoMarkup_or_fewer_marks 16 (messagePieces_fuel (' ' :: message.toList)) with hnone | hless
    · rw [messagePieces_of_hasNoMarkup hnone, characters_of_hasNoMarkup hnone, hmessage] at hmarks
      exact ⟨hmarks, Or.inl ((hasNoMarkup_append_iff hspace).mp hnone)⟩
    · have hfewer := hmarks.trans_lt (hmessage ▸ hless)
      exact ⟨hfewer.le, Or.inr hfewer⟩

/-- Messages with the lines that are shown of them. -/
def ShownAs (messages lines : List String) : Prop :=
  List.Forall₂ (fun message line => (success message).text = .ok line) messages lines

def verbatimLines (messages : List String) : String := String.join (messages.map verbatimLine)

@[simp] theorem marks_verbatimLine (message : String) :
    marks (verbatimLine message).toList = marks message.toList := by
  simp [verbatimLine, marks, isMark]

variable {messages lines : List String}

theorem isShown_of_lines (h : ShownAs messages lines) : (String.join lines).toList.all isShown := by
  induction h with
  | nil => rfl
  | cons hline _ ih =>
    rw [String.join_cons, String.toList_append, List.all_append, (line_of_success hline).1, ih]
    rfl

/-- Where something in one of the messages is markup, their lines have lost marks. -/
theorem marks_of_lines (h : ShownAs messages lines) :
    marks (String.join lines).toList ≤ marks (verbatimLines messages).toList ∧
      ((∀ message ∈ messages, HasNoMarkup message.toList) ∨
        marks (String.join lines).toList < marks (verbatimLines messages).toList) := by
  induction h with
  | nil => exact ⟨Nat.zero_le _, Or.inl (by simp)⟩
  | cons hline _ ih =>
    obtain ⟨-, hle, hfirst⟩ := line_of_success hline
    obtain ⟨hleRest, hrest⟩ := ih
    simp only [verbatimLines, List.map_cons, String.join_cons, String.toList_append, marks_append,
      marks_verbatimLine, List.forall_mem_cons] at hleRest hrest ⊢
    refine ⟨Nat.add_le_add hle hleRest, ?_⟩
    rcases hfirst with hfirst | hless
    · rcases hrest with hrest | hless
      · exact Or.inl ⟨hfirst, hrest⟩
      · exact Or.inr (by omega)
    · exact Or.inr (by omega)

/-- Messages are shown as they are exactly if each of them is such a text by itself. -/
theorem shown_verbatim_iff (messages : List String) :
    (∃ lines, ShownAs messages lines ∧ String.join lines = verbatimLines messages) ↔
      ∀ message ∈ messages, Verbatim message.toList := by
  constructor
  · rintro ⟨lines, hlines, hsame⟩ message hmessage
    have hshown := List.all_eq_true.mp (isShown_of_lines hlines)
    obtain ⟨-, hnone | hless⟩ := marks_of_lines hlines
    · refine ⟨hnone message hmessage, List.all_eq_true.mpr fun c hc => hshown c ?_⟩
      rw [hsame, verbatimLines, String.toList_join]
      exact List.mem_flatMap.mpr ⟨_, List.mem_map_of_mem hmessage, by simp [verbatimLine, hc]⟩
    · rw [hsame] at hless
      exact absurd hless (lt_irrefl _)
  · intro h
    refine ⟨messages.map verbatimLine, List.forall₂_map_right_iff.mpr ?_, rfl⟩
    exact List.forall₂_same.mpr fun message hmessage => success_of_verbatim (h message hmessage)

end Console

end FactIntake
