import FactIntake.Console.Markup
import FactIntake.Proofs.EmojiCodes
import Mathlib.Data.List.TakeWhile

/-!
Text that is shown as markup. What is shown is the text itself, but for controls that the console drops,
or it has fewer marks: a tag is not shown or loses a backslash before it, a bracket loses one, a known
emoji code loses its colons. It is the text itself if and only if there is nothing of that in it.
-/

namespace FactIntake.Console

theorem unescapeBrackets_keepsOrLoses (cs : List Char) : KeepsOrLoses (unescapeBrackets cs) cs := by
  fun_induction unescapeBrackets cs with
  | case1 cs ih =>
    have hle := ih.marks_le
    refine Or.inr ?_
    rw [marks_cons '\\', marks_cons '[' cs, marks_cons '[' (unescapeBrackets cs)]
    have hmark : 0 < marks ['\\'] := by decide
    omega
  | case2 c cs _ ih => exact ih.cons c
  | case3 => exact .refl []

theorem unescapeBrackets_eq_self_iff (cs : List Char) : unescapeBrackets cs = cs ↔ ¬ ['\\', '['] <:+: cs := by
  fun_induction unescapeBrackets cs with
  | case1 cs ih =>
    have hfound : ['\\', '['] <:+: '\\' :: '[' :: cs := ⟨[], cs, rfl⟩
    simp [hfound]
  | case2 c cs hother ih =>
    have hhead : ¬ ['\\', '['] <+: c :: cs := by
      rintro ⟨rest, hrest⟩
      obtain ⟨rfl, rfl⟩ := List.cons.inj hrest
      exact hother rest rfl rfl
    rw [List.cons_inj_right, ih, List.infix_cons_iff]
    simp [hhead]
  | case3 => simp

theorem drop_length_takeWhile (p : Char → Bool) (cs : List Char) :
    cs.drop (cs.takeWhile p).length = cs.dropWhile p :=
  (congrArg (List.drop _) List.takeWhile_append_dropWhile.symm).trans List.drop_left

/-- Brackets around a body that begins as that of a tag does and has no brackets in it. -/
def IsTag (cs : List Char) : Prop :=
  ∃ c body, beginsTag c ∧ '[' ∉ body ∧ ']' ∉ body ∧ cs = bracketed (c :: body)

/-- No bracket in the text opens a tag. -/
def HasNoTag (cs : List Char) : Prop := ∀ rest, '[' :: rest <:+ cs → tagBody? rest = none

theorem bracket_of_beginsTag {c : Char} (h : beginsTag c) : c ≠ '[' ∧ c ≠ ']' := by
  constructor <;> (rintro rfl; revert h; decide)

theorem tagBody?_eq_some {cs body rest : List Char} (h : tagBody? cs = some (body, rest)) :
    cs = body ++ ']' :: rest ∧ IsTag (bracketed body) := by
  unfold tagBody? at h
  simp only at h
  split at h
  · next c after hhead hdrop =>
    split at h
    · next hbegins =>
      simp only [Option.some.injEq, Prod.mk.injEq] at h
      obtain ⟨rfl, rfl⟩ := h
      have hsplit : cs = cs.takeWhile (fun c => c != '[' && c != ']') ++ ']' :: after := by
        rw [← hdrop, drop_length_takeWhile, List.takeWhile_append_dropWhile]
      have hbody : ∀ d ∈ cs.takeWhile (fun c => c != '[' && c != ']'), d ≠ '[' ∧ d ≠ ']' := by
        intro d hd
        simpa using List.mem_takeWhile_imp hd
      refine ⟨hsplit, ?_⟩
      obtain ⟨tail, htail⟩ := List.head?_eq_some_iff.mp hhead
      rw [htail] at hbody ⊢
      exact ⟨c, tail, hbegins, fun hmem => (hbody _ (.tail _ hmem)).1 rfl,
        fun hmem => (hbody _ (.tail _ hmem)).2 rfl, rfl⟩
    · cases h
  · cases h

theorem tagBody?_of_isTag {c : Char} {body : List Char} (hbegins : beginsTag c) (hopen : '[' ∉ body)
    (hclose : ']' ∉ body) (rest : List Char) : tagBody? (c :: body ++ ']' :: rest) = some (c :: body, rest) := by
  have hplain : ∀ d ∈ c :: body, (d != '[' && d != ']') = true := by
    intro d hd
    rcases List.mem_cons.mp hd with rfl | hd
    · simpa using bracket_of_beginsTag hbegins
    · simp only [Bool.and_eq_true, bne_iff_ne]
      exact ⟨fun heq => hopen (heq ▸ hd), fun heq => hclose (heq ▸ hd)⟩
  have hbody : (c :: body ++ ']' :: rest).takeWhile (fun d => d != '[' && d != ']') = c :: body := by
    rw [List.takeWhile_append_of_pos hplain, List.takeWhile_cons_of_neg (by decide), List.append_nil]
  unfold tagBody?
  simp only [hbody, List.head?_cons, List.drop_left, hbegins, if_true]

theorem hasNoTag_iff (cs : List Char) : HasNoTag cs ↔ ∀ tag, IsTag tag → ¬ tag <:+: cs := by
  constructor
  · rintro h _ ⟨c, body, hbegins, hopen, hclose, rfl⟩ ⟨before, after, rfl⟩
    have hnone := h (c :: body ++ ']' :: after) ⟨before, by simp [bracketed]⟩
    rw [tagBody?_of_isTag hbegins hopen hclose] at hnone
    cases hnone
  · rintro h rest ⟨before, rfl⟩
    cases hbody : tagBody? rest with
    | none => rfl
    | some found =>
      obtain ⟨body, after⟩ := found
      obtain ⟨rfl, htag⟩ := tagBody?_eq_some hbody
      exact absurd ⟨before, after, by simp [bracketed]⟩ (h _ htag)

/-- The parts of a text with a tag in front. -/
theorem tagMatch?_eq_some {cs : List Char} {found : TagMatch} (h : tagMatch? cs = some found) :
    cs = List.replicate found.backslashes '\\' ++ bracketed found.body ++ found.rest ∧
      IsTag (bracketed found.body) := by
  unfold tagMatch? at h
  simp only at h
  split at h
  · next inner hinner =>
    obtain ⟨⟨body, rest⟩, hbody, rfl⟩ := Option.map_eq_some_iff.mp h
    obtain ⟨rfl, htag⟩ := tagBody?_eq_some hbody
    have hslashes : cs.takeWhile (· == '\\') = List.replicate (cs.takeWhile (· == '\\')).length '\\' := by
      refine List.eq_replicate_iff.mpr ⟨rfl, fun c hc => ?_⟩
      simpa using List.mem_takeWhile_imp hc
    rw [drop_length_takeWhile] at hinner
    have hsplit := List.takeWhile_append_dropWhile (p := (· == '\\')) (l := cs)
    rw [hinner, hslashes] at hsplit
    exact ⟨hsplit.symm.trans (by simp [bracketed]), htag⟩
  · cases h

theorem tagMatch?_of_isTag {body : List Char} (h : IsTag (bracketed body)) (n : Nat) (rest : List Char) :
    tagMatch? (List.replicate n '\\' ++ bracketed body ++ rest) = some ⟨n, body, rest⟩ := by
  obtain ⟨c, tail, hbegins, hopen, hclose, hbody⟩ := h
  obtain rfl : body = c :: tail := List.append_cancel_right (List.cons.inj hbody).2
  have hslashes : (List.replicate n '\\' ++ bracketed (c :: tail) ++ rest).takeWhile (· == '\\') =
      List.replicate n '\\' := by
    rw [List.append_assoc, List.takeWhile_append_of_pos (by simp)]
    simp [bracketed]
  have hrest := tagBody?_of_isTag hbegins hopen hclose rest
  simp only [tagMatch?, hslashes, List.length_replicate]
  rw [List.append_assoc, List.drop_left' (List.length_replicate ..)]
  simp only [bracketed, List.cons_append, List.append_assoc, List.nil_append] at hrest ⊢
  rw [hrest]
  rfl

/-- Where there is no tag at the start, all tags are further on. -/
theorem hasNoTag_cons {c : Char} {cs : List Char} (hnone : tagMatch? (c :: cs) = none) (h : HasNoTag cs) :
    HasNoTag (c :: cs) := by
  intro rest hrest
  rcases List.suffix_cons_iff.mp hrest with heq | hrest
  · obtain ⟨rfl, rfl⟩ := List.cons.inj heq
    simpa [tagMatch?] using hnone
  · exact h rest hrest

/-- The characters of a piece, before the console drops controls. -/
def Piece.characters : Piece → List Char
  | plain cs => replaceEmoji (unescapeBrackets cs)
  | tag .. => []

def characters (pieces : List Piece) : List Char := pieces.flatMap Piece.characters

@[simp] theorem characters_append (first later : List Piece) :
    characters (first ++ later) = characters first ++ characters later := List.flatMap_append

theorem characters_plainPiece (reversed : List Char) :
    characters (plainPiece reversed) = replaceEmoji (unescapeBrackets reversed.reverse) := by
  cases reversed with
  | nil => rfl
  | cons c reversed => simp [plainPiece, characters, Piece.characters]

theorem plain_keepsOrLoses (cs : List Char) : KeepsOrLoses (replaceEmoji (unescapeBrackets cs)) cs := by
  have hle := (replaceEmoji_keepsOrLoses (unescapeBrackets cs)).marks_le
  rcases unescapeBrackets_keepsOrLoses cs with heq | hless
  · rw [heq]
    exact replaceEmoji_keepsOrLoses cs
  · exact Or.inr (hle.trans_lt hless)

/-- A tag is not shown, or is shown with fewer backslashes. -/
theorem marks_of_pieces (found : TagMatch) (position : Nat) :
    marks (characters (found.pieces position)) <
      marks (List.replicate found.backslashes '\\' ++ bracketed found.body) := by
  have hslashes : ∀ n, marks (List.replicate n '\\') = n := by
    intro n
    simp [marks, isMark, List.countP_replicate]
  have hbracket : 0 < marks (bracketed found.body) := by
    rw [bracketed, List.cons_append, marks_cons]
    exact Nat.add_pos_left (by decide) _
  have hkept : marks (characters (if (found.backslashes / 2 == 0) = true then []
      else [.plain (List.replicate (found.backslashes / 2) '\\')])) ≤ found.backslashes / 2 := by
    split
    · exact Nat.zero_le _
    · have hle := (plain_keepsOrLoses (List.replicate (found.backslashes / 2) '\\')).marks_le
      rw [hslashes] at hle
      simpa [characters, Piece.characters] using hle
  simp only [TagMatch.pieces, characters_append, marks_append, hslashes]
  cases hodd : found.backslashes % 2 == 1 with
  | true =>
    have hle : marks (characters [.plain (bracketed found.body)]) ≤ marks (bracketed found.body) := by
      simpa [characters, Piece.characters] using (plain_keepsOrLoses (bracketed found.body)).marks_le
    have hrest : found.backslashes % 2 = 1 := by simpa using hodd
    simp only [if_true]
    omega
  | false =>
    have hnone : marks (characters [.tag (position + 2 * (found.backslashes / 2)) found.body]) = 0 := rfl
    simp only [Bool.false_eq_true, if_false]
    omega

theorem piecesUpTo_of_match {cs : List Char} {found : TagMatch} (h : tagMatch? cs = some found)
    (fuel position : Nat) (plain : List Char) :
    piecesUpTo (fuel + 1) position plain cs =
      plainPiece plain ++ found.pieces position ++ piecesUpTo fuel (position + found.length) [] found.rest := by
  cases cs with
  | nil => cases h
  | cons c cs => simp only [piecesUpTo, h]

theorem piecesUpTo_of_no_match {c : Char} {cs : List Char} (h : tagMatch? (c :: cs) = none)
    (fuel position : Nat) (plain : List Char) :
    piecesUpTo (fuel + 1) position plain (c :: cs) = piecesUpTo fuel (position + 1) (c :: plain) cs := by
  simp only [piecesUpTo, h]

/-- Markup without a tag is one plain piece; with one there are fewer marks in its pieces. -/
theorem piecesUpTo_cases {fuel : Nat} {cs : List Char} (position : Nat) (plain : List Char)
    (hfuel : cs.length < fuel) :
    (HasNoTag cs ∧ piecesUpTo fuel position plain cs = plainPiece (cs.reverse ++ plain)) ∨
      (¬ HasNoTag cs ∧
        marks (characters (piecesUpTo fuel position plain cs)) < marks (plain.reverse ++ cs)) := by
  fun_induction piecesUpTo fuel position plain cs with
  | case1 => omega
  | case2 =>
    refine Or.inl ⟨fun rest hrest => ?_, rfl⟩
    simp at hrest
  | case3 fuel position plain c cs found hfound ih =>
    obtain ⟨hsplit, htag⟩ := tagMatch?_eq_some hfound
    have hsome : ¬ HasNoTag (c :: cs) := by
      rw [hasNoTag_iff, hsplit]
      exact fun hnone => hnone _ htag (List.infix_append _ _ _)
    have hlength : found.rest.length < fuel := by
      have hall := congrArg List.length hsplit
      simp [bracketed] at hall hfuel
      omega
    have hrest : marks (characters (piecesUpTo fuel (position + found.length) [] found.rest)) ≤
        marks found.rest := by
      rcases ih hlength with ⟨-, hpieces⟩ | ⟨-, hless⟩
      · rw [hpieces, characters_plainPiece]
        simpa using (plain_keepsOrLoses found.rest).marks_le
      · exact hless.le
    have hplain := (plain_keepsOrLoses plain.reverse).marks_le
    have hlost := marks_of_pieces found position
    refine Or.inr ⟨hsome, ?_⟩
    rw [hsplit, characters_append, characters_append, characters_plainPiece]
    simp only [marks_append] at hlost ⊢
    omega
  | case4 fuel position plain c cs hnone ih =>
    rcases ih (by simpa using hfuel) with ⟨hnotag, hpieces⟩ | ⟨hsome, hless⟩
    · exact Or.inl ⟨hasNoTag_cons hnone hnotag, by simp [hpieces]⟩
    · refine Or.inr ⟨fun hnotag => hsome fun rest hrest => ?_, by simpa using hless⟩
      exact hnotag rest (hrest.trans (List.suffix_cons c cs))

/-- Nothing in a text is markup: no tag, no escaped bracket and no known emoji code. -/
structure HasNoMarkup (cs : List Char) : Prop where
  tags : ∀ tag, IsTag tag → ¬ tag <:+: cs
  escapes : ¬ ['\\', '['] <:+: cs
  emoji : replaceEmoji cs = cs

theorem pieces_of_hasNoMarkup {fuel : Nat} {cs : List Char} (position : Nat) (hfuel : cs.length < fuel)
    (h : HasNoMarkup cs) : piecesUpTo fuel position [] cs = plainPiece cs.reverse := by
  rcases piecesUpTo_cases position [] hfuel with ⟨-, hpieces⟩ | ⟨hsome, -⟩
  · rw [hpieces, List.append_nil]
  · exact absurd ((hasNoTag_iff cs).mpr h.tags) hsome

theorem characters_of_hasNoMarkup {cs : List Char} (h : HasNoMarkup cs) :
    characters (plainPiece cs.reverse) = cs := by
  rw [characters_plainPiece, List.reverse_reverse, (unescapeBrackets_eq_self_iff cs).mpr h.escapes, h.emoji]

/-- Where something in a text is markup, its pieces have fewer marks. -/
theorem hasNoMarkup_or_fewer_marks {fuel : Nat} {cs : List Char} (position : Nat) (hfuel : cs.length < fuel) :
    HasNoMarkup cs ∨ marks (characters (piecesUpTo fuel position [] cs)) < marks cs := by
  rcases piecesUpTo_cases position [] hfuel with ⟨hnotag, hpieces⟩ | ⟨-, hless⟩
  · rw [hpieces, List.append_nil, characters_plainPiece, List.reverse_reverse]
    rcases unescapeBrackets_keepsOrLoses cs with hescapes | hless
    · rw [hescapes]
      rcases replaceEmoji_keepsOrLoses cs with hemoji | hless
      · exact Or.inl ⟨(hasNoTag_iff cs).mp hnotag, (unescapeBrackets_eq_self_iff cs).mp hescapes, hemoji⟩
      · exact Or.inr hless
    · exact Or.inr ((replaceEmoji_keepsOrLoses _).marks_le.trans_lt hless)
  · exact Or.inr hless

/-- Nothing in a text is markup exactly if its pieces keep all its marks, which can be counted. -/
theorem hasNoMarkup_iff_marks (cs : List Char) : HasNoMarkup cs ↔ marks cs ≤ marks (characters (pieces cs)) := by
  have hfuel : cs.length < cs.length + 1 := Nat.lt_succ_self _
  constructor
  · intro h
    rw [pieces, pieces_of_hasNoMarkup 0 hfuel h, characters_of_hasNoMarkup h]
  · intro h
    exact (hasNoMarkup_or_fewer_marks 0 hfuel).resolve_right (not_lt.mpr h)

instance (cs : List Char) : Decidable (HasNoMarkup cs) := decidable_of_iff _ (hasNoMarkup_iff_marks cs).symm

/-- What begins with a character that is not in front is found further on. -/
theorem infix_append_iff {c : Char} {found before cs : List Char} (h : c ∉ before) :
    c :: found <:+: before ++ cs ↔ c :: found <:+: cs := by
  induction before with
  | nil => rfl
  | cons first rest ih =>
    obtain ⟨hfirst, hrest⟩ : c ≠ first ∧ c ∉ rest := by simpa using h
    rw [List.cons_append, List.infix_cons_iff, ih hrest, List.cons_prefix_cons]
    simp [hfirst]

/-- Characters in front that mean nothing to the console make nothing of what follows markup. -/
theorem hasNoMarkup_append_iff {before cs : List Char} (h : marks before = 0) :
    HasNoMarkup (before ++ cs) ↔ HasNoMarkup cs := by
  have hnone : ∀ c, isMark c → c ∉ before := fun c hmark hc => List.countP_eq_zero.mp h c hc hmark
  have htags : ∀ tag, IsTag tag → (tag <:+: before ++ cs ↔ tag <:+: cs) := by
    rintro _ ⟨c, body, -, -, -, rfl⟩
    exact infix_append_iff (hnone '[' rfl)
  have hescapes : ['\\', '['] <:+: before ++ cs ↔ ['\\', '['] <:+: cs := infix_append_iff (hnone '\\' rfl)
  have hemoji : replaceEmoji (before ++ cs) = before ++ replaceEmoji cs := by
    have hcolon : ':' ∉ before := hnone ':' rfl
    clear h hnone htags hescapes
    induction before with
    | nil => rfl
    | cons first rest ih =>
      obtain ⟨hfirst, hrest⟩ : ':' ≠ first ∧ ':' ∉ rest := by simpa using hcolon
      rw [List.cons_append, replaceEmoji_cons (Ne.symm hfirst), ih hrest, List.cons_append]
  constructor
  · rintro ⟨hnotag, hnoescape, hnoemoji⟩
    exact ⟨fun tag htag hfound => hnotag tag htag ((htags tag htag).mpr hfound),
      fun hfound => hnoescape (hescapes.mpr hfound), List.append_cancel_left (hemoji.symm.trans hnoemoji)⟩
  · rintro ⟨hnotag, hnoescape, hnoemoji⟩
    exact ⟨fun tag htag hfound => hnotag tag htag ((htags tag htag).mp hfound),
      fun hfound => hnoescape (hescapes.mp hfound), by rw [hemoji, hnoemoji]⟩

variable {α β : Type} {first : Rendering α} {next : α → Rendering β} {warnings later : Array Literal.Warning}

theorem run_bind (first : Rendering α) (next : α → Rendering β) (warnings : Array Literal.Warning) :
    (first >>= next).run warnings =
      match first.run warnings with
      | (.ok found, between) => (next found).run between
      | (.error fault, between) => (.error fault, between) := by
  show (match ExceptT.run first warnings with
    | (found, between) => ExceptT.bindCont next found between) = _
  rcases ExceptT.run first warnings with ⟨_ | _, _⟩ <;> rfl

theorem bind_eq_ok {value : β} (h : (first >>= next).run warnings = (.ok value, later)) :
    ∃ found between, first.run warnings = (.ok found, between) ∧
      (next found).run between = (.ok value, later) := by
  rw [run_bind] at h
  rcases hfirst : first.run warnings with ⟨fault | found, between⟩
  · rw [hfirst] at h
    exact absurd (congrArg Prod.fst h) nofun
  · rw [hfirst] at h
    exact ⟨found, between, rfl, h⟩

/-- What is shown of pieces are their characters, but for the controls that the console drops. -/
theorem text_of_renderPieces {pieces : List Piece} {length : Nat} {openTags : List OpenTag} {shown : Shown}
    (h : (renderPieces length openTags pieces).run warnings = (.ok shown, later)) :
    shown.text = (characters pieces).filter (!isDropped ·) := by
  induction pieces generalizing length openTags shown warnings later with
  | nil =>
    rw [renderPieces] at h
    obtain ⟨h, -⟩ := Prod.mk.inj h
    obtain rfl := Except.ok.inj h
    rfl
  | cons piece rest ih =>
    cases piece with
    | plain cs =>
      rw [renderPieces] at h
      obtain ⟨inside, between, hinside, hshown⟩ := bind_eq_ok h
      obtain ⟨hshown, -⟩ := Prod.mk.inj hshown
      obtain rfl := Except.ok.inj hshown
      simp only [ih hinside, shownText, characters, List.flatMap_cons, List.filter_append, Piece.characters]
    | tag position body =>
      rw [renderPieces] at h
      obtain ⟨⟨tags, closed⟩, between, -, hrest⟩ := bind_eq_ok h
      obtain ⟨inside, last, hinside, hshown⟩ := bind_eq_ok hrest
      obtain ⟨hshown, -⟩ := Prod.mk.inj hshown
      obtain rfl := Except.ok.inj hshown
      simp only [ih hinside, characters, List.flatMap_cons, Piece.characters, List.nil_append]

end FactIntake.Console
