import FactIntake.Proofs.SignedLines

/-!
Escaped text. A text is cut at its tags. Escaping doubles the backslashes before each tag and adds one,
and leaves all between the tags alone. So nothing in escaped markup is a tag any more: it is shown in
stretches, and each stretch between two tags and each tag is plain text by itself. A single backslash at
the end of the text is doubled as well, but nothing takes it off again.
-/

namespace FactIntake.Console

variable {cs front later rest body : List Char} {c : Char}

/-- What ends in a character that is not behind is found before. -/
theorem infix_append_last_iff {found : List Char} (h : c ∉ later) :
    found ++ [c] <:+: cs ++ later ↔ found ++ [c] <:+: cs := by
  have hlater : c ∉ later.reverse := fun hc => h (List.mem_reverse.mp hc)
  rw [← List.reverse_infix, List.reverse_append, List.reverse_append]
  show c :: found.reverse <:+: later.reverse ++ cs.reverse ↔ _
  rw [infix_append_iff hlater, ← List.reverse_infix, List.reverse_cons, List.reverse_reverse, List.reverse_reverse]

theorem hasNoTag_append_iff (h : ']' ∉ later) : HasNoTag (cs ++ later) ↔ HasNoTag cs := by
  have htags : ∀ tag, IsTag tag → (tag <:+: cs ++ later ↔ tag <:+: cs) := by
    rintro _ ⟨c, body, -, -, -, rfl⟩
    exact infix_append_last_iff h
  simp only [hasNoTag_iff]
  exact forall₂_congr fun tag htag => not_congr (htags tag htag)

theorem HasNoTag.of_infix (h : HasNoTag cs) (hpart : later <:+: cs) : HasNoTag later := by
  rw [hasNoTag_iff] at h ⊢
  exact fun tag htag hfound => h tag htag (hfound.trans hpart)

theorem unescapeBrackets_append (h : '[' ∉ later) (cs : List Char) :
    unescapeBrackets (cs ++ later) = unescapeBrackets cs ++ later := by
  fun_induction unescapeBrackets cs with
  | case1 cs ih => simp only [List.cons_append, unescapeBrackets, ih]
  | case2 c cs hother ih =>
    rw [List.cons_append, unescapeBrackets, ih, List.cons_append]
    rintro rest rfl hrest
    rcases List.append_eq_cons_iff.mp hrest with ⟨-, hlater⟩ | ⟨tail, hcs, -⟩
    · exact h (hlater ▸ .head _)
    · exact hother tail rfl hcs
  | case3 =>
    refine (unescapeBrackets_eq_self_iff later).mpr fun hfound => h ?_
    exact hfound.subset (by simp)

theorem notMem_backslashes (hc : c ≠ '\\') (n : Nat) : c ∉ List.replicate n '\\' :=
  fun hmem => hc (List.eq_of_mem_replicate hmem)

theorem hasNoMarkup_append_backslashes (n : Nat) :
    HasNoMarkup (cs ++ List.replicate n '\\') ↔ HasNoMarkup cs := by
  have htags := @hasNoTag_append_iff cs _ (notMem_backslashes (by decide) n)
  have hescapes : ['\\'] ++ ['['] <:+: cs ++ List.replicate n '\\' ↔ ['\\'] ++ ['['] <:+: cs :=
    infix_append_last_iff (notMem_backslashes (by decide) n)
  have hemoji : replaceEmoji (cs ++ List.replicate n '\\') = cs ++ List.replicate n '\\' ↔
      replaceEmoji cs = cs := by
    rw [replaceEmoji_append (notMem_backslashes (by decide) n), List.append_left_inj]
  simp only [hasNoTag_iff] at htags
  constructor
  · rintro ⟨hnotag, hnoescape, hnoemoji⟩
    exact ⟨htags.mp hnotag, fun hfound => hnoescape (hescapes.mpr hfound), hemoji.mp hnoemoji⟩
  · rintro ⟨hnotag, hnoescape, hnoemoji⟩
    exact ⟨htags.mpr hnotag, fun hfound => hnoescape (hescapes.mp hfound), hemoji.mpr hnoemoji⟩

theorem exists_backslashes (cs : List Char) :
    ∃ front n, cs = front ++ List.replicate n '\\' ∧ front.getLast? ≠ some '\\' := by
  induction cs using List.reverseRecOn with
  | nil => exact ⟨[], 0, rfl, by simp⟩
  | append_singleton cs c ih =>
    by_cases hc : c = '\\'
    · obtain ⟨front, n, rfl, hfront⟩ := ih
      exact ⟨front, n + 1, by rw [hc, List.replicate_succ', List.append_assoc], hfront⟩
    · exact ⟨cs ++ [c], 0, by simp, by simpa using hc⟩

theorem exists_first_tag (h : ¬ HasNoTag cs) :
    ∃ before tag rest, cs = before ++ tag ++ rest ∧ HasNoTag before ∧ IsTag tag := by
  rw [hasNoTag_iff] at h
  push Not at h
  obtain ⟨tag, htag, before, rest, hcs⟩ := h
  induction hlength : before.length using Nat.strong_induction_on generalizing before tag rest with
  | _ length ih =>
    by_cases hbefore : HasNoTag before
    · exact ⟨before, tag, rest, hcs.symm, hbefore, htag⟩
    · rw [hasNoTag_iff] at hbefore
      push Not at hbefore
      obtain ⟨earlier, hearlier, first, between, rfl⟩ := hbefore
      have hpositive : 0 < earlier.length := by
        obtain ⟨c, body, -, -, -, rfl⟩ := hearlier
        exact Nat.succ_pos _
      refine ih first.length ?_ earlier hearlier first (between ++ tag ++ rest) ?_ rfl
      · simp only [List.length_append] at hlength
        omega
      · simpa only [List.append_assoc] using hcs

/-- Nowhere in a text is a tag matched, where other text follows it. -/
def Unmatched (front later : List Char) : Prop :=
  ∀ c rest, c :: rest <:+ front → tagMatch? (c :: rest ++ later) = none

theorem Unmatched.head (h : Unmatched (c :: front) later) : tagMatch? (c :: (front ++ later)) = none :=
  h c front List.suffix_rfl

theorem Unmatched.tail (h : Unmatched (c :: front) later) : Unmatched front later :=
  fun d rest hsuffix => h d rest (hsuffix.trans (List.suffix_cons c front))

theorem unmatched_of_hasNoTag (h : HasNoTag cs) : Unmatched cs [] := by
  intro c rest hsuffix
  rw [List.append_nil]
  cases hmatch : tagMatch? (c :: rest) with
  | none => rfl
  | some found =>
    obtain ⟨hsplit, htag⟩ := tagMatch?_eq_some hmatch
    have hnone := (hasNoTag_iff _).mp (h.of_infix hsuffix.isInfix) _ htag
    exact absurd (hsplit ▸ List.infix_append _ _ _) hnone

theorem notMem_of_isTag (h : IsTag (bracketed body)) : '[' ∉ body ++ [']'] := by
  obtain ⟨c, tail, hbegins, hopen, -, hbody⟩ := h
  obtain rfl : body = c :: tail := List.append_cancel_right (List.cons.inj hbody).2
  simp [hopen, Ne.symm (bracket_of_beginsTag hbegins).1]

/-- Where something other than a backslash stands before a tag, the tag is not matched yet. -/
theorem tagMatch?_before_tag (h : HasNoTag cs) (hc : c ∈ cs) (hne : c ≠ '\\') (later : List Char) :
    tagMatch? (cs ++ '[' :: later) = none := by
  cases hmatch : tagMatch? (cs ++ '[' :: later) with
  | none => rfl
  | some found =>
    obtain ⟨hsplit, htag⟩ := tagMatch?_eq_some hmatch
    have hnone := (hasNoTag_iff cs).mp h _ htag
    rcases List.append_eq_append_iff.mp hsplit with ⟨between, hfound, hlater⟩ | ⟨between, hcs, -⟩
    · cases between with
      | nil =>
        rw [List.append_nil] at hfound
        exact absurd (hfound ▸ (List.suffix_append _ _).isInfix) hnone
      | cons bracket between =>
        obtain rfl := (List.cons.inj hlater).1
        -- The tag would begin with the bracket, so there are only backslashes before it.
        have hslashes := (List.append_cons_inj_of_notMem (notMem_backslashes (by decide) found.backslashes)
          (notMem_of_isTag htag)).mp hfound
        rw [← hslashes.1] at hc
        exact absurd (List.eq_of_mem_replicate hc) hne
    · exact absurd (hcs ▸ List.infix_append _ _ _) hnone

theorem unmatched_before_tag (h : HasNoTag front) (hlast : front.getLast? ≠ some '\\') (n : Nat)
    (later : List Char) : Unmatched front (List.replicate n '\\' ++ '[' :: later) := by
  intro c rest hsuffix
  obtain ⟨last, hmem⟩ : ∃ last, (c :: rest).getLast? = some last := ⟨_, List.getLast?_eq_some_getLast (by simp)⟩
  have hne : last ≠ '\\' := by
    rintro rfl
    obtain ⟨before, rfl⟩ := hsuffix
    exact hlast (by rw [List.getLast?_append, hmem]; rfl)
  have hnone : HasNoTag (c :: rest ++ List.replicate n '\\') :=
    (hasNoTag_append_iff (notMem_backslashes (by decide) n)).mpr (h.of_infix hsuffix.isInfix)
  rw [← List.append_assoc]
  exact tagMatch?_before_tag hnone (List.mem_append_left _ (List.mem_of_getLast? hmem)) hne later

theorem escapeTagsUpTo_of_match {found : TagMatch} (h : tagMatch? cs = some found) (fuel : Nat) :
    escapeTagsUpTo (fuel + 1) cs =
      List.replicate (2 * found.backslashes + 1) '\\' ++ bracketed found.body ++
        escapeTagsUpTo fuel found.rest := by
  cases cs with
  | nil => cases h
  | cons c cs => simp only [escapeTagsUpTo, h]

theorem escapeTagsUpTo_unmatched (h : Unmatched front later) (fuel : Nat) :
    escapeTagsUpTo (front.length + fuel) (front ++ later) = front ++ escapeTagsUpTo fuel later := by
  induction front with
  | nil => simp
  | cons c front ih =>
    rw [List.length_cons, Nat.add_right_comm, List.cons_append]
    simp only [escapeTagsUpTo, h.head, ih h.tail, List.cons_append]

theorem piecesUpTo_unmatched (h : Unmatched front later) (fuel position : Nat) (plain : List Char) :
    piecesUpTo (front.length + fuel) position plain (front ++ later) =
      piecesUpTo fuel (position + front.length) (front.reverse ++ plain) later := by
  induction front generalizing position plain with
  | nil => simp
  | cons c front ih =>
    rw [List.length_cons, Nat.add_right_comm, List.cons_append, piecesUpTo_of_no_match h.head, ih h.tail]
    simp [Nat.add_comm, Nat.add_left_comm]

theorem hasNoMarkup_or_loses (h : HasNoTag cs) :
    HasNoMarkup cs ∨ marks (replaceEmoji (unescapeBrackets cs)) < marks cs := by
  have hfuel : cs.length < cs.length + 1 := Nat.lt_succ_self _
  rcases piecesUpTo_cases 0 [] hfuel with ⟨-, hpieces⟩ | ⟨hsome, -⟩
  · rcases hasNoMarkup_or_fewer_marks 0 hfuel with hplain | hless
    · exact Or.inl hplain
    · rw [hpieces, List.append_nil, characters_plainPiece, List.reverse_reverse] at hless
      exact Or.inr hless
  · exact absurd h hsome

/-- What leads up to a tag, with the tag. -/
structure Stretch where
  front : List Char
  backslashes : Nat
  body : List Char
  noTag : HasNoTag front
  settled : front.getLast? ≠ some '\\'
  isTag : IsTag (bracketed body)

namespace Stretch

variable (stretch : Stretch)

def text : List Char :=
  stretch.front ++ (List.replicate stretch.backslashes '\\' ++ bracketed stretch.body)

def escaped : List Char :=
  stretch.front ++ (List.replicate (2 * stretch.backslashes + 1) '\\' ++ bracketed stretch.body)

/-- What is shown of a stretch whose tag is escaped. -/
def shown : List Char :=
  replaceEmoji (unescapeBrackets stretch.front) ++
    (List.replicate stretch.backslashes '\\' ++ replaceEmoji (bracketed stretch.body))

theorem unmatched (n : Nat) (later : List Char) :
    Unmatched stretch.front (List.replicate n '\\' ++ (bracketed stretch.body ++ later)) :=
  unmatched_before_tag stretch.noTag stretch.settled n _

theorem escapeTagsUpTo_text {later : List Char} {fuel : Nat}
    (hfuel : stretch.text.length + later.length ≤ fuel) :
    ∃ more, later.length ≤ more ∧
      escapeTagsUpTo fuel (stretch.text ++ later) = stretch.escaped ++ escapeTagsUpTo more later := by
  have hmatch := tagMatch?_of_isTag stretch.isTag stretch.backslashes later
  have hlength : stretch.text.length =
      stretch.front.length + (stretch.backslashes + (stretch.body.length + 1) + 1) := by
    simp [text, bracketed]
    omega
  obtain ⟨more, rfl⟩ : ∃ more, fuel = stretch.front.length + (more + 1) :=
    ⟨fuel - stretch.front.length - 1, by omega⟩
  refine ⟨more, by omega, ?_⟩
  rw [List.append_assoc] at hmatch
  rw [text, List.append_assoc, List.append_assoc, escapeTagsUpTo_unmatched (stretch.unmatched _ later),
    escapeTagsUpTo_of_match hmatch]
  simp only [escaped, List.append_assoc]

theorem tag_eq : unescapeBrackets (bracketed stretch.body) = bracketed stretch.body := by
  have hescapes : ['\\'] ++ ['['] <:+: ['['] ++ (stretch.body ++ [']']) ↔ ['\\'] ++ ['['] <:+: ['['] :=
    infix_append_last_iff (notMem_of_isTag stretch.isTag)
  rw [unescapeBrackets_eq_self_iff]
  exact fun hfound => absurd (hescapes.mp hfound) (by decide)

/-- The tag is plain text, and loses the backslashes that escaping has added. -/
theorem pieces_escapedTag (position : Nat) (later : List Char) :
    (TagMatch.pieces ⟨2 * stretch.backslashes + 1, stretch.body, later⟩ position).all Piece.isPlain ∧
      characters (TagMatch.pieces ⟨2 * stretch.backslashes + 1, stretch.body, later⟩ position) =
        List.replicate stretch.backslashes '\\' ++ replaceEmoji (bracketed stretch.body) := by
  have hkept : (2 * stretch.backslashes + 1) / 2 = stretch.backslashes := by omega
  have hodd : ((2 * stretch.backslashes + 1) % 2 == 1) = true := by
    rw [beq_iff_eq]
    omega
  have hslashes : replaceEmoji (unescapeBrackets (List.replicate stretch.backslashes '\\')) =
      List.replicate stretch.backslashes '\\' := by
    have hplain : HasNoMarkup ([] ++ List.replicate stretch.backslashes '\\') :=
      (hasNoMarkup_append_backslashes _).mpr (by decide)
    rw [List.nil_append] at hplain
    rw [(unescapeBrackets_eq_self_iff _).mpr hplain.escapes, hplain.emoji]
  simp only [TagMatch.pieces, hkept, hodd, if_true]
  by_cases hnone : stretch.backslashes = 0
  · simp [hnone, Piece.isPlain, characters, Piece.characters, stretch.tag_eq]
  · simp [hnone, Piece.isPlain, characters, Piece.characters, stretch.tag_eq, hslashes]

theorem piecesUpTo_escaped {later : List Char} {fuel : Nat}
    (hfuel : stretch.escaped.length + later.length < fuel) (position : Nat) :
    ∃ pieces more place, later.length < more ∧
      piecesUpTo fuel position [] (stretch.escaped ++ later) = pieces ++ piecesUpTo more place [] later ∧
      pieces.all Piece.isPlain ∧ characters pieces = stretch.shown := by
  have hmatch := tagMatch?_of_isTag stretch.isTag (2 * stretch.backslashes + 1) later
  have hlength : stretch.escaped.length =
      stretch.front.length + (2 * stretch.backslashes + 1 + (stretch.body.length + 1) + 1) := by
    simp [escaped, bracketed]
    omega
  obtain ⟨more, rfl⟩ : ∃ more, fuel = stretch.front.length + (more + 1) :=
    ⟨fuel - stretch.front.length - 1, by omega⟩
  rw [List.append_assoc] at hmatch
  rw [escaped, List.append_assoc, List.append_assoc, piecesUpTo_unmatched (stretch.unmatched _ later),
    piecesUpTo_of_match hmatch]
  obtain ⟨hplain, hshown⟩ := stretch.pieces_escapedTag (position + stretch.front.length) later
  refine ⟨_, more, _, by omega, rfl, ?_, ?_⟩
  · rw [List.all_append, isPlain_plainPiece, hplain]
    rfl
  · rw [characters_append, characters_plainPiece, hshown, List.append_nil, List.reverse_reverse, shown]

/-- Where something in a stretch is markup, it loses marks. -/
theorem marks_shown :
    marks stretch.shown ≤ marks stretch.text ∧
      (HasNoMarkup stretch.front ∧ replaceEmoji (bracketed stretch.body) = bracketed stretch.body ∨
        marks stretch.shown < marks stretch.text) := by
  have hfrontLe := (plain_keepsOrLoses stretch.front).marks_le
  have htagLe := (replaceEmoji_keepsOrLoses (bracketed stretch.body)).marks_le
  simp only [shown, text, marks_append]
  refine ⟨by omega, ?_⟩
  rcases hasNoMarkup_or_loses stretch.noTag with hfront | hless
  · rcases replaceEmoji_keepsOrLoses (bracketed stretch.body) with htag | hless
    · exact Or.inl ⟨hfront, htag⟩
    · exact Or.inr (by omega)
  · exact Or.inr (by omega)

end Stretch

/-- The text of stretches and of what follows the last tag. -/
def textOf (stretches : List Stretch) (last : List Char) : List Char := stretches.flatMap Stretch.text ++ last

def escapedOf (stretches : List Stretch) (last : List Char) : List Char :=
  stretches.flatMap Stretch.escaped ++ last

def shownOf (stretches : List Stretch) (last : List Char) : List Char :=
  stretches.flatMap Stretch.shown ++ replaceEmoji (unescapeBrackets last)

variable {stretch : Stretch} {stretches : List Stretch} {last : List Char} {fuel : Nat}

@[simp] theorem textOf_cons : textOf (stretch :: stretches) last = stretch.text ++ textOf stretches last := by
  simp [textOf]

@[simp] theorem escapedOf_cons :
    escapedOf (stretch :: stretches) last = stretch.escaped ++ escapedOf stretches last := by
  simp [escapedOf]

@[simp] theorem shownOf_cons :
    shownOf (stretch :: stretches) last = stretch.shown ++ shownOf stretches last := by
  simp [shownOf]

/-- Every text can be cut at its tags. -/
theorem exists_stretches (cs : List Char) :
    ∃ stretches last, HasNoTag last ∧ textOf stretches last = cs := by
  induction hlength : cs.length using Nat.strong_induction_on generalizing cs with
  | _ length ih =>
    by_cases hnone : HasNoTag cs
    · exact ⟨[], cs, hnone, rfl⟩
    · obtain ⟨before, tag, rest, rfl, hbefore, htag⟩ := exists_first_tag hnone
      obtain ⟨front, n, rfl, hfront⟩ := exists_backslashes before
      have hisTag := htag
      obtain ⟨c, body, -, -, -, rfl⟩ := htag
      have hshorter : rest.length < length := by
        simp [bracketed] at hlength
        omega
      obtain ⟨stretches, last, hlast, rfl⟩ := ih rest.length hshorter rest rfl
      have hfrontNone : HasNoTag front := hbefore.of_infix (List.prefix_append ..).isInfix
      exact ⟨⟨front, n, c :: body, hfrontNone, hfront, hisTag⟩ :: stretches, last, hlast,
        by simp [Stretch.text]⟩

theorem escapeTagsUpTo_textOf (hlast : HasNoTag last) (hfuel : (textOf stretches last).length ≤ fuel) :
    escapeTagsUpTo fuel (textOf stretches last) = escapedOf stretches last := by
  induction stretches generalizing fuel with
  | nil =>
    obtain ⟨more, rfl⟩ := Nat.exists_eq_add_of_le hfuel
    have hend : escapeTagsUpTo more [] = [] := by cases more <;> rfl
    have hsame := escapeTagsUpTo_unmatched (unmatched_of_hasNoTag hlast) more
    rwa [hend, List.append_nil] at hsame
  | cons stretch stretches ih =>
    rw [textOf_cons, List.length_append] at hfuel
    obtain ⟨more, hmore, hescaped⟩ := stretch.escapeTagsUpTo_text hfuel
    rw [textOf_cons, hescaped, ih hmore, escapedOf_cons]

/-- Nothing in escaped markup is a tag. -/
theorem piecesUpTo_escapedOf (stretches : List Stretch) (hlast : HasNoTag last)
    (hfuel : (escapedOf stretches last).length < fuel)
    (position : Nat) :
    (piecesUpTo fuel position [] (escapedOf stretches last)).all Piece.isPlain ∧
      characters (piecesUpTo fuel position [] (escapedOf stretches last)) = shownOf stretches last := by
  induction stretches generalizing fuel position with
  | nil =>
    rcases piecesUpTo_cases position [] hfuel with ⟨-, hpieces⟩ | ⟨hsome, -⟩
    · rw [hpieces, List.append_nil, characters_plainPiece, List.reverse_reverse]
      exact ⟨isPlain_plainPiece _, rfl⟩
    · exact absurd hlast hsome
  | cons stretch stretches ih =>
    rw [escapedOf_cons, List.length_append] at hfuel
    obtain ⟨pieces, more, place, hmore, hpieces, hplain, hshown⟩ := stretch.piecesUpTo_escaped hfuel position
    obtain ⟨hrestPlain, hrestShown⟩ := ih hmore place
    rw [escapedOf_cons, hpieces, List.all_append, hplain, hrestPlain, characters_append, hshown, hrestShown,
      shownOf_cons]
    exact ⟨rfl, rfl⟩

theorem endsInSingleBackslash_append (front : List Char) (hc : c ≠ '\\') (cs : List Char) :
    endsInSingleBackslash (front ++ c :: cs) = endsInSingleBackslash cs := by
  unfold endsInSingleBackslash
  rw [List.reverse_append, List.reverse_cons, List.append_assoc, List.singleton_append]
  rcases cs.reverse with _ | ⟨first, _ | ⟨second, rest⟩⟩
  · simp [hc]
  · by_cases hfirst : first = '\\' <;> simp [hfirst, hc]
  · by_cases hfirst : first = '\\' <;> by_cases hsecond : second = '\\' <;> simp [hfirst, hsecond]

theorem endsInSingleBackslash_cons (hc : c ≠ '\\') (cs : List Char) :
    endsInSingleBackslash (c :: cs) = endsInSingleBackslash cs :=
  endsInSingleBackslash_append [] hc cs

theorem exists_of_endsInSingleBackslash (h : endsInSingleBackslash cs) : ∃ front, cs = front ++ ['\\'] := by
  unfold endsInSingleBackslash at h
  split at h
  · cases h
  · next rest hother heq => exact ⟨rest.reverse, by rw [← List.reverse_cons, ← heq, List.reverse_reverse]⟩
  · cases h

/-- The end of a text is behind its last tag. -/
theorem endsInSingleBackslash_flatMap {change : Stretch → List Char}
    (h : ∀ stretch, ∃ before, change stretch = before ++ [']']) (stretches : List Stretch) (last : List Char) :
    endsInSingleBackslash (stretches.flatMap change ++ last) = endsInSingleBackslash last := by
  induction stretches with
  | nil => rfl
  | cons stretch stretches ih =>
    obtain ⟨before, hbefore⟩ := h stretch
    have hsplit : (stretch :: stretches).flatMap change ++ last =
        before ++ ']' :: (stretches.flatMap change ++ last) := by
      simp [hbefore]
    rw [hsplit, endsInSingleBackslash_append _ (by decide), ih]

theorem endsInSingleBackslash_textOf (stretches : List Stretch) (last : List Char) :
    endsInSingleBackslash (textOf stretches last) = endsInSingleBackslash last :=
  endsInSingleBackslash_flatMap (fun stretch => ⟨stretch.front ++ (List.replicate stretch.backslashes '\\' ++
    '[' :: stretch.body), by simp [Stretch.text, bracketed]⟩) stretches last

theorem endsInSingleBackslash_escapedOf (stretches : List Stretch) (last : List Char) :
    endsInSingleBackslash (escapedOf stretches last) = endsInSingleBackslash last :=
  endsInSingleBackslash_flatMap (fun stretch => ⟨stretch.front ++
    (List.replicate (2 * stretch.backslashes + 1) '\\' ++ '[' :: stretch.body),
      by simp [Stretch.escaped, bracketed]⟩) stretches last

/-- What escaping puts behind a text. -/
def trailing (cs : List Char) : List Char := if endsInSingleBackslash cs then ['\\'] else []

theorem notMem_trailing (hc : c ≠ '\\') (cs : List Char) : c ∉ trailing cs := by
  unfold trailing
  split
  · simpa using hc
  · exact List.not_mem_nil

theorem escape_textOf (stretches : List Stretch) (hlast : HasNoTag last) :
    escape (textOf stretches last) = escapedOf stretches (last ++ trailing (textOf stretches last)) := by
  have hends : endsInSingleBackslash (escapedOf stretches last) = endsInSingleBackslash (textOf stretches last) :=
    (endsInSingleBackslash_escapedOf stretches last).trans (endsInSingleBackslash_textOf stretches last).symm
  simp only [escape, escapeTagsUpTo_textOf hlast (Nat.le_refl _), hends, trailing]
  split <;> simp [escapedOf]

theorem shownOf_append_trailing (stretches : List Stretch) (last cs : List Char) :
    shownOf stretches (last ++ trailing cs) = shownOf stretches last ++ trailing cs := by
  rw [shownOf, unescapeBrackets_append (notMem_trailing (by decide) cs),
    replaceEmoji_append (notMem_trailing (by decide) cs), ← List.append_assoc]
  rfl

theorem escape_cons (hc : isMark c = false) (cs : List Char) : escape (c :: cs) = c :: escape cs := by
  have hslash : c ≠ '\\' := by
    rintro rfl
    cases hc
  have hends := endsInSingleBackslash_cons hslash (escapeTagsUpTo cs.length cs)
  simp only [escape, List.length_cons, escapeTagsUpTo, tagMatch?_cons_of_unmarked hc, hends]
  split <;> rfl

end FactIntake.Console
