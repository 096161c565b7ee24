import FactIntake.Console.Line
import FactIntake.Proofs.MarkupText

/-!
Lines behind a coloured sign. The tags that colour the sign are opened and closed before the message
begins, so the message is shown by itself; where there is no tag in it, it can always be shown.
-/

namespace FactIntake.Console

def Piece.isPlain : Piece → Bool
  | plain _ => true
  | tag .. => false

theorem isPlain_plainPiece (reversed : List Char) : (plainPiece reversed).all Piece.isPlain := by
  cases reversed <;> rfl

/-- Plain text is shown without a span. -/
theorem renderPieces_of_plain {pieces : List Piece} (h : pieces.all Piece.isPlain) (length : Nat)
    (warnings : Array Literal.Warning) :
    (renderPieces length [] pieces).run warnings =
      (.ok ⟨(characters pieces).filter (!isDropped ·), []⟩, warnings) := by
  induction pieces generalizing length with
  | nil => rfl
  | cons piece rest ih =>
    obtain ⟨hpiece, hrest⟩ : piece.isPlain ∧ rest.all Piece.isPlain := by simpa using h
    cases piece with
    | tag position body => cases hpiece
    | plain cs =>
      rw [renderPieces, run_bind, ih hrest]
      simp only [characters, List.flatMap_cons, List.filter_append, Piece.characters, shownText]
      rfl

/-- Nothing is refused where no style is. -/
theorem refusal_eq_none {shown : Shown} (h : ∀ span ∈ shown.spans, Style.refusal? span.style = none) :
    shown.refusal? = none := by
  refine List.findSome?_eq_none_iff.mpr fun span hspan => ?_
  exact h span (List.mem_reverse.mp (List.mem_mergeSort.mp (List.mem_filter.mp hspan).1))

theorem tagMatch?_cons_of_unmarked {c : Char} (hc : isMark c = false) (cs : List Char) :
    tagMatch? (c :: cs) = none := by
  simp only [isMark, Bool.or_eq_false_iff, beq_eq_false_iff_ne] at hc
  obtain ⟨⟨hopen, hslash⟩, -⟩ := hc
  simp only [tagMatch?, List.takeWhile_cons, beq_iff_eq, hslash, if_false, List.length_nil, List.drop_zero]
  split
  · next heq => exact absurd (List.cons.inj heq).1 hopen
  · rfl

/-- A name that spells a colour and nothing else. -/
structure IsColour (name : String) : Prop where
  listed : colourNames.contains name = true
  small : Text.lower name = name
  unattributed : attributeOf? name = none
  keyword : name ∉ ["on", "not", "link"]
  words : Text.words name = [name]
  trimmed : ((Text.strip name).isEmpty || Text.strip name == "none") = false

namespace IsColour

variable {name : String} {colour : List Char}

theorem read_eq (h : IsColour name) : Style.read name = .ok ⟨[], some name, none, none⟩ := by
  have hcolour : readColour name = .ok () := by
    unfold readColour
    simp only [h.listed, Bool.true_or, if_true]
  have hread : Style.plain.readWords [name] = .ok ⟨[], some name, none, none⟩ := by
    obtain ⟨hon, hnot, hlink⟩ : name ≠ "on" ∧ name ≠ "not" ∧ name ≠ "link" := by simpa using h.keyword
    rw [Style.readWords.eq_def]
    simp only [h.small, h.unattributed, hcolour]
    -- The three keywords, each with a word after it and without one, are no colours.
    split
    · contradiction
    · contradiction
    · contradiction
    · contradiction
    · contradiction
    · contradiction
    · rw [Style.readWords.eq_def]
      rfl
  simp only [Style.read, h.trimmed, h.words, hread]
  rfl

theorem refusal_eq (h : IsColour name) : Style.refusal? name = none := by
  simp only [Style.refusal?, h.read_eq]

theorem styleName_eq (h : IsColour (String.ofList colour)) : styleName colour = pure (String.ofList colour) := by
  have hnormal : Style.normal (String.ofList colour) = .ok (String.ofList colour) := by
    simp only [Style.normal, h.read_eq]
    rfl
  rw [styleName, hnormal]
  rfl

end IsColour

/-- A sign that is shown, and the colour that tags around it give it. -/
structure Sign where
  colour : List Char
  character : Char
  isColour : IsColour (String.ofList colour)
  nonempty : colour ≠ []
  letters : colour.all fun c => 'a' ≤ c && c ≤ 'z'
  trimmed : Text.stripChars colour = colour
  unmarked : isMark character = false
  kept : isDropped character = false

namespace Sign

variable (sign : Sign)

def name : String := String.ofList sign.colour

/-- The sign with its tags. -/
def markup : List Char := bracketed sign.colour ++ sign.character :: bracketed ('/' :: sign.colour)

/-- What follows the sign, in pieces; three steps take the sign off. -/
def laterPieces (cs : List Char) : List Piece :=
  piecesUpTo (cs.length + (2 * sign.colour.length + 4)) (2 * sign.colour.length + 6) [] cs

theorem laterPieces_fuel (cs : List Char) : cs.length < cs.length + (2 * sign.colour.length + 4) := by omega

theorem ne_of_mem {c : Char} (hc : c ∈ sign.colour) :
    c ≠ '[' ∧ c ≠ ']' ∧ c ≠ '=' ∧ c ≠ '/' ∧ c ≠ '@' := by
  have hletter := List.all_eq_true.mp sign.letters c hc
  refine ⟨?_, ?_, ?_, ?_, ?_⟩ <;> (rintro rfl; revert hletter; decide)

theorem exists_cons : ∃ c rest, sign.colour = c :: rest ∧ beginsTag c := by
  obtain ⟨c, rest, hcolour⟩ := List.exists_cons_of_ne_nil sign.nonempty
  have hletter := List.all_eq_true.mp sign.letters c (hcolour ▸ .head _)
  refine ⟨c, rest, hcolour, ?_⟩
  simp only [beginsTag, hletter, Bool.true_or]

theorem notMem_colour {c : Char} (hc : c = '[' ∨ c = ']') : c ∉ sign.colour := by
  intro hmem
  obtain ⟨hopen, hclose, -⟩ := sign.ne_of_mem hmem
  rcases hc with rfl | rfl <;> contradiction

theorem isTag_open : IsTag (bracketed sign.colour) := by
  obtain ⟨c, rest, hcolour, hbegins⟩ := sign.exists_cons
  have hopen := sign.notMem_colour (.inl rfl)
  have hclose := sign.notMem_colour (.inr rfl)
  rw [hcolour] at hopen hclose ⊢
  exact ⟨c, rest, hbegins, fun h => hopen (.tail _ h), fun h => hclose (.tail _ h), rfl⟩

theorem isTag_close : IsTag (bracketed ('/' :: sign.colour)) :=
  ⟨'/', sign.colour, rfl, sign.notMem_colour (.inl rfl), sign.notMem_colour (.inr rfl), rfl⟩

theorem pieces_markup (cs : List Char) :
    pieces (sign.markup ++ cs) = .tag 0 sign.colour :: .plain [sign.character] ::
      .tag (sign.colour.length + 3) ('/' :: sign.colour) :: sign.laterPieces cs := by
  have hopen := tagMatch?_of_isTag sign.isTag_open 0
    (sign.character :: (bracketed ('/' :: sign.colour) ++ cs))
  have hclose := tagMatch?_of_isTag sign.isTag_close 0 cs
  have hlength : (sign.markup ++ cs).length + 1 = cs.length + (2 * sign.colour.length + 4) + 1 + 1 + 1 := by
    simp [markup, bracketed]
    omega
  simp only [List.replicate_zero, List.nil_append] at hopen hclose
  rw [pieces, hlength, markup, List.append_assoc, List.cons_append, piecesUpTo_of_match hopen,
    piecesUpTo_of_no_match (tagMatch?_cons_of_unmarked sign.unmarked _), piecesUpTo_of_match hclose]
  have hstart : 0 + TagMatch.length ⟨0, sign.colour, sign.character :: (bracketed ('/' :: sign.colour) ++ cs)⟩ + 1 =
      sign.colour.length + 3 := by
    simp only [TagMatch.length]
    omega
  have hlater : sign.colour.length + 3 + TagMatch.length ⟨0, '/' :: sign.colour, cs⟩ =
      2 * sign.colour.length + 6 := by
    simp only [TagMatch.length, List.length_cons]
    omega
  rw [hstart, hlater]
  simp [TagMatch.pieces, plainPiece, laterPieces]

theorem tagName_eq : tagName sign.colour = sign.colour := by
  refine List.takeWhile_eq_self_iff.mpr fun c hc => ?_
  simpa using (sign.ne_of_mem hc).2.2.1

theorem tagName_close : tagName ('/' :: sign.colour) = '/' :: sign.colour :=
  congrArg (List.cons '/') sign.tagName_eq

theorem open_eq : applyTag [] 0 0 sign.colour = pure ([⟨0, sign.name, none⟩], []) := by
  have hparameters : tagParameters? sign.colour = none := by
    have hnone : sign.colour.dropWhile (· != '=') = [] :=
      List.dropWhile_eq_nil_iff.mpr fun c hc => by simpa using (sign.ne_of_mem hc).2.2.1
    rw [tagParameters?, hnone]
  unfold applyTag
  rw [sign.tagName_eq]
  split
  · next name hname =>
    have hslash : '/' ∈ sign.colour := hname ▸ .head _
    exact absurd rfl (sign.ne_of_mem hslash).2.2.2.1
  · rw [sign.isColour.styleName_eq, hparameters]
    rfl

theorem close_eq (position : Nat) :
    applyTag [⟨0, sign.name, none⟩] 1 position ('/' :: sign.colour) = pure ([], [⟨0, 1, sign.name⟩]) := by
  have hhandler : (OpenTag.mk 0 sign.name none).isHandler = false := by
    have hat : '@' ∉ sign.colour := fun hc => (sign.ne_of_mem hc).2.2.2.2 rfl
    simp only [OpenTag.isHandler, name, String.toList_ofList]
    obtain ⟨c, rest, hcolour, -⟩ := sign.exists_cons
    rw [hcolour] at hat ⊢
    have hne : c ≠ '@' := fun heq => hat (heq ▸ .head rest)
    simpa using hne
  have hnonempty : sign.colour.isEmpty = false := List.isEmpty_eq_false_iff.mpr sign.nonempty
  unfold applyTag
  rw [sign.tagName_close]
  simp only [sign.trimmed, hnonempty, sign.isColour.styleName_eq, pure_bind, Bool.false_eq_true, if_false]
  have hname : String.ofList sign.colour = sign.name := rfl
  simp only [hname, List.find?_cons, beq_self_eq_true, closeTag, hhandler, Bool.false_eq_true, if_false, pure_bind,
    List.eraseP_cons]
  rfl

theorem character_eq : replaceEmoji (unescapeBrackets [sign.character]) = [sign.character] := by
  have hcolon : sign.character ≠ ':' := by
    intro heq
    have hunmarked := sign.unmarked
    rw [heq] at hunmarked
    cases hunmarked
  have hplain : unescapeBrackets [sign.character] = [sign.character] := by simp [unescapeBrackets]
  rw [hplain]
  exact replaceEmoji_cons hcolon []

/-- The sign is shown in its colour, whatever follows it. -/
theorem renderPieces_markup (pieces : List Piece) (warnings : Array Literal.Warning) :
    (renderPieces 0 [] (.tag 0 sign.colour :: .plain [sign.character] ::
      .tag (sign.colour.length + 3) ('/' :: sign.colour) :: pieces)).run warnings =
    match (renderPieces 1 [] pieces).run warnings with
    | (.ok shown, later) => (.ok ⟨sign.character :: shown.text, ⟨0, 1, sign.name⟩ :: shown.spans⟩, later)
    | (.error fault, later) => (.error fault, later) := by
  have hsign : shownText (unescapeBrackets [sign.character]) = [sign.character] := by
    rw [shownText, sign.character_eq, List.filter_cons_of_pos (by simp [sign.kept]), List.filter_nil]
  simp only [renderPieces, sign.open_eq, hsign, List.length_singleton, pure_bind, Nat.zero_add, sign.close_eq,
    run_bind]
  rcases (renderPieces 1 [] pieces).run warnings with ⟨fault | shown, later⟩ <;> rfl

theorem render_markup (cs : List Char) :
    render (sign.markup ++ cs) = do
      let shown ← renderPieces 0 [] (pieces (sign.markup ++ cs))
      match shown.refusal? with
      | some refusal => throw (.component refusal)
      | none => return shown.text := by
  have hopened : (sign.markup ++ cs).contains '[' = true := by simp [markup, bracketed]
  exact if_pos hopened

/-- What is shown of a message, if it can be shown. -/
theorem text_of_render {cs shown : List Char} {warnings later : Array Literal.Warning}
    (h : (render (sign.markup ++ cs)).run warnings = (.ok shown, later)) :
    shown = sign.character :: (characters (sign.laterPieces cs)).filter (!isDropped ·) := by
  rw [render_markup] at h
  obtain ⟨all, between, hall, hshown⟩ := bind_eq_ok h
  have htext := text_of_renderPieces hall
  rw [pieces_markup] at htext
  cases hrefusal : all.refusal? with
  | some refusal =>
    rw [hrefusal] at hshown
    exact absurd (congrArg Prod.fst hshown) nofun
  | none =>
    rw [hrefusal] at hshown
    obtain rfl := Except.ok.inj (congrArg Prod.fst hshown)
    rw [htext]
    simp only [characters, List.flatMap_cons, Piece.characters, List.nil_append, sign.character_eq,
      List.singleton_append, List.filter_cons, sign.kept, Bool.not_false, if_true]

/-- A message without tags is shown, and nothing is said against it. -/
theorem render_of_plain {cs : List Char} (h : (sign.laterPieces cs).all Piece.isPlain)
    (warnings : Array Literal.Warning) :
    (render (sign.markup ++ cs)).run warnings =
      (.ok (sign.character :: (characters (sign.laterPieces cs)).filter (!isDropped ·)), warnings) := by
  have hrefusal : ∀ text, Shown.refusal? ⟨text, [⟨0, 1, sign.name⟩]⟩ = none := fun text =>
    refusal_eq_none fun span hspan => List.mem_singleton.mp hspan ▸ sign.isColour.refusal_eq
  rw [render_markup, run_bind, pieces_markup, renderPieces_markup, renderPieces_of_plain h]
  simp only [hrefusal]
  rfl

end Sign

end FactIntake.Console
