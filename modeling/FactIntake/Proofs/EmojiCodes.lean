import FactIntake.Console.Emoji
import Mathlib.Data.List.Infix

/-!
Text with emoji codes. Brackets, backslashes and colons are the marks that console text gives a meaning
to. No emoji is shown with one of them, so where a known code is replaced there are fewer marks than
before, and a text that keeps all its marks has no known code in it. Text without a colon stays as it is
behind any other.
-/

namespace FactIntake.Console

/-- The characters that text on the console gives a meaning to. -/
def isMark (c : Char) : Bool := c == '[' || c == '\\' || c == ':'

def marks (cs : List Char) : Nat := cs.countP isMark

@[simp] theorem marks_append (first later : List Char) : marks (first ++ later) = marks first + marks later :=
  List.countP_append

theorem marks_cons (c : Char) (cs : List Char) : marks (c :: cs) = marks [c] + marks cs :=
  marks_append [c] cs

/-- What is shown of a text is the text itself, or has fewer marks. -/
def KeepsOrLoses (shown cs : List Char) : Prop := shown = cs ∨ marks shown < marks cs

namespace KeepsOrLoses

variable {shown cs later rest : List Char}

theorem refl (cs : List Char) : KeepsOrLoses cs cs := Or.inl rfl

theorem marks_le (h : KeepsOrLoses shown cs) : marks shown ≤ marks cs := by
  rcases h with rfl | h
  · exact le_rfl
  · exact h.le

theorem append (h : KeepsOrLoses shown cs) (hlater : KeepsOrLoses later rest) :
    KeepsOrLoses (shown ++ later) (cs ++ rest) := by
  have hle := h.marks_le
  have hlaterLe := hlater.marks_le
  simp only [KeepsOrLoses, marks_append]
  rcases h with rfl | h
  · rcases hlater with rfl | hlater
    · exact Or.inl rfl
    · exact Or.inr (by omega)
  · exact Or.inr (by omega)

theorem cons (c : Char) (h : KeepsOrLoses shown cs) : KeepsOrLoses (c :: shown) (c :: cs) :=
  (refl [c]).append h

end KeepsOrLoses

theorem mem_bytes_of_mem {c : Char} {s : String} (hc : c ∈ s.toList) {b : UInt8}
    (hb : b ∈ String.utf8EncodeChar c) : b ∈ s.toByteArray.data.toList := by
  rw [← String.utf8Encode_toList]
  simpa [List.utf8Encode] using ⟨c, hc, hb⟩

def isMarkByte (b : UInt8) : Bool := b.toNat == 91 || b.toNat == 92 || b.toNat == 58

theorem encode_of_isMark {c : Char} (h : isMark c) : ∃ b, isMarkByte b ∧ b ∈ String.utf8EncodeChar c := by
  simp only [isMark, Bool.or_eq_true, beq_iff_eq] at h
  rcases h with (rfl | rfl) | rfl
  · exact ⟨91, by decide, by decide⟩
  · exact ⟨92, by decide, by decide⟩
  · exact ⟨58, by decide, by decide⟩

namespace EmojiNames

/-- The names are looked up in bytes, of which the shown characters need not be decoded. -/
theorem no_mark_in_all : all.all (fun names => names.all fun entry =>
    entry.2.toByteArray.data.toList.all (!isMarkByte ·)) = true := by
  decide +kernel

theorem no_mark_of_find {name shown : String} (h : find? name = some shown) : marks shown.toList = 0 := by
  obtain ⟨names, hnames, hlookup⟩ := List.exists_of_findSome?_eq_some h
  obtain ⟨before, after, hentries, -⟩ := List.lookup_eq_some_iff.mp hlookup
  have hbytes : ∀ b ∈ shown.toByteArray.data.toList, isMarkByte b = false := by
    have hall := List.all_eq_true.mp (List.all_eq_true.mp no_mark_in_all names hnames) (name, shown)
      (by simp [hentries])
    intro b hb
    simpa using List.all_eq_true.mp hall b hb
  refine List.countP_eq_zero.mpr fun c hc hmark => ?_
  obtain ⟨b, hmarkByte, hb⟩ := encode_of_isMark hmark
  rw [hbytes b (mem_bytes_of_mem hc hb)] at hmarkByte
  contradiction

end EmojiNames

theorem no_mark_of_shown {code : EmojiCode} {shown : List Char} (h : code.shown? = some shown) :
    marks shown = 0 := by
  obtain ⟨found, hfound, rfl⟩ := Option.map_eq_some_iff.mp h
  rw [marks_append, EmojiNames.no_mark_of_find hfound]
  rcases code.variant with _ | _ | _ <;> rfl

theorem dropHead?_eq_some {head cs rest : List Char} (h : dropHead? head cs = some rest) :
    cs = head ++ rest := by
  unfold dropHead? at h
  split at h
  · next hhead =>
    obtain rfl := Option.some.inj h
    exact (List.prefix_iff_eq_append.mp (List.isPrefixOf_iff_prefix.mp hhead)).symm
  · cases h

/-- What follows a code is what is left of the text. -/
theorem codeFrom_suffix {name cs : List Char} {code : EmojiCode} (h : codeFrom name cs = some code) :
    code.rest <:+ cs := by
  fun_induction codeFrom name cs with
  | case1 => cases h
  | case2 name c cs rest hpicture =>
    obtain rfl := Option.some.inj h
    exact ⟨_, (dropHead?_eq_some hpicture).symm⟩
  | case3 name c cs rest htext hpicture =>
    obtain rfl := Option.some.inj h
    exact ⟨_, (dropHead?_eq_some htext).symm⟩
  | case4 name c cs hpicture htext hcolon =>
    obtain rfl := Option.some.inj h
    exact List.suffix_cons c cs
  | case5 => cases h
  | case6 name c cs hpicture htext hcolon hblank ih => exact (ih h).trans (List.suffix_cons c cs)

theorem replaceEmojiUpTo_keepsOrLoses (fuel : Nat) (cs : List Char) :
    KeepsOrLoses (replaceEmojiUpTo fuel cs) cs := by
  fun_induction replaceEmojiUpTo fuel cs with
  | case1 cs => exact .refl cs
  | case2 => exact .refl []
  | case3 fuel c cs hcolon ih => exact ih.cons c
  | case4 fuel c cs hcolon hcode ih => exact ih.cons c
  | case5 fuel c cs hcolon code hcode written ih =>
    obtain ⟨before, hbefore⟩ := codeFrom_suffix hcode
    have hwritten : written ++ code.rest = c :: cs := by
      simp only [written, ← hbefore, List.length_append, Nat.add_sub_cancel, List.take_left', List.cons_append]
    rw [← hwritten]
    refine KeepsOrLoses.append ?_ ih
    cases hshown : code.shown? with
    | none => exact .refl written
    | some shown =>
      -- The colon that opens the code is lost.
      have hc : c = ':' := by simpa using hcolon
      refine Or.inr ?_
      have hlost : 0 < marks written := by
        rw [show written = ':' :: cs.take (cs.length - code.rest.length) by rw [← hc], marks_cons]
        exact Nat.add_pos_left (by decide) _
      rw [Option.getD_some, no_mark_of_shown hshown]
      exact hlost

theorem replaceEmoji_keepsOrLoses (cs : List Char) : KeepsOrLoses (replaceEmoji cs) cs :=
  replaceEmojiUpTo_keepsOrLoses cs.length cs

theorem replaceEmoji_cons {c : Char} (hc : c ≠ ':') (cs : List Char) :
    replaceEmoji (c :: cs) = c :: replaceEmoji cs := by
  simp [replaceEmoji, replaceEmojiUpTo, hc]

variable {name head cs rest later : List Char} {code : EmojiCode} {fuel : Nat}

theorem dropHead?_append (h : dropHead? head cs = some rest) (later : List Char) :
    dropHead? head (cs ++ later) = some (rest ++ later) := by
  obtain rfl := dropHead?_eq_some h
  have hprefix : head.isPrefixOf (head ++ rest ++ later) :=
    List.isPrefixOf_iff_prefix.mpr ⟨rest ++ later, (List.append_assoc ..).symm⟩
  rw [dropHead?, if_pos hprefix, List.append_assoc, List.drop_left]

/-- What ends in a mark does not end in text without the mark. -/
theorem dropHead?_append_eq_none {mark : Char} (head : List Char) (h : dropHead? (head ++ [mark]) cs = none)
    (hlater : mark ∉ later) :
    dropHead? (head ++ [mark]) (cs ++ later) = none := by
  cases hdrop : dropHead? (head ++ [mark]) (cs ++ later) with
  | none => rfl
  | some rest =>
    have hsplit := dropHead?_eq_some hdrop
    rcases List.append_eq_append_iff.mp hsplit with ⟨between, hhead, hrest⟩ | ⟨between, hcs, -⟩
    · -- The mark is the last character of what is looked for, so nothing of it stands behind `cs`.
      rcases List.eq_nil_or_concat' between with rfl | ⟨front, last, rfl⟩
      · rw [List.append_nil] at hhead
        rw [← hhead, dropHead?, if_pos (List.isPrefixOf_iff_prefix.mpr (List.prefix_refl _))] at h
        cases h
      · rw [← List.append_assoc] at hhead
        obtain rfl : mark = last := by simpa using (List.append_inj' hhead rfl).2
        exact absurd (by simp [hrest]) hlater
    · rw [hcs, dropHead?, if_pos (List.isPrefixOf_iff_prefix.mpr (List.prefix_append ..))] at h
      cases h

theorem codeFrom_eq_none (hcs : ':' ∉ cs) (name : List Char) : codeFrom name cs = none := by
  induction cs generalizing name with
  | nil => rfl
  | cons c cs ih =>
    obtain ⟨hc, hrest⟩ : ':' ≠ c ∧ ':' ∉ cs := by simpa using hcs
    have hsuffix : ∀ variant : Variant, dropHead? variant.suffix (c :: cs) = none := by
      intro variant
      cases hdrop : dropHead? variant.suffix (c :: cs) with
      | none => rfl
      | some rest =>
        rw [dropHead?_eq_some hdrop] at hcs
        cases variant <;> exact absurd (by decide) (fun hmem => hcs (List.mem_append_left rest hmem))
    simp [codeFrom, hsuffix, Ne.symm hc, ih hrest]

/-- What has no colon in it ends no code, and begins none. -/
theorem codeFrom_append (hlater : ':' ∉ later) (name cs : List Char) :
    codeFrom name (cs ++ later) =
      (codeFrom name cs).map fun code => { code with rest := code.rest ++ later } := by
  have hsuffix : ∀ (variant : Variant) (cs : List Char), dropHead? variant.suffix cs = none →
      dropHead? variant.suffix (cs ++ later) = none := by
    rintro (_ | _) cs h
    · exact dropHead?_append_eq_none "-emoji".toList h hlater
    · exact dropHead?_append_eq_none "-text".toList h hlater
  fun_induction codeFrom name cs with
  | case1 name => simp [codeFrom_eq_none hlater]
  | case2 name c cs rest hpicture =>
    have hpicture := dropHead?_append hpicture later
    rw [List.cons_append] at hpicture
    simp [codeFrom, hpicture]
  | case3 name c cs rest htext hpicture =>
    have htext := dropHead?_append htext later
    have hpicture := hsuffix .picture _ hpicture
    rw [List.cons_append] at htext hpicture
    simp [codeFrom, htext, hpicture]
  | case4 name c cs htext hpicture hcolon =>
    have htext := hsuffix .text _ htext
    have hpicture := hsuffix .picture _ hpicture
    rw [List.cons_append] at htext hpicture
    simp [codeFrom, htext, hpicture, hcolon]
  | case5 name c cs htext hpicture hcolon hblank =>
    have htext := hsuffix .text _ htext
    have hpicture := hsuffix .picture _ hpicture
    rw [List.cons_append] at htext hpicture
    simp [codeFrom, htext, hpicture, hcolon, hblank]
  | case6 name c cs htext hpicture hcolon hblank ih =>
    have htext := hsuffix .text _ htext
    have hpicture := hsuffix .picture _ hpicture
    rw [List.cons_append] at htext hpicture
    simp [codeFrom, htext, hpicture, hcolon, hblank, ih]

theorem replaceEmojiUpTo_eq_self (hcs : ':' ∉ cs) (fuel : Nat) : replaceEmojiUpTo fuel cs = cs := by
  induction fuel generalizing cs with
  | zero => rfl
  | succ fuel ih =>
    cases cs with
    | nil => rfl
    | cons c cs =>
      obtain ⟨hc, hrest⟩ : ':' ≠ c ∧ ':' ∉ cs := by simpa using hcs
      simp [replaceEmojiUpTo, Ne.symm hc, ih hrest]

theorem replaceEmojiUpTo_append (hlater : ':' ∉ later) {more : Nat} (hfuel : cs.length ≤ fuel)
    (hmore : cs.length + later.length ≤ more) :
    replaceEmojiUpTo more (cs ++ later) = replaceEmojiUpTo fuel cs ++ later := by
  fun_induction replaceEmojiUpTo fuel cs generalizing more with
  | case1 cs =>
    obtain rfl : cs = [] := by simpa using hfuel
    exact replaceEmojiUpTo_eq_self hlater more
  | case2 => exact replaceEmojiUpTo_eq_self hlater more
  | case3 fuel c cs hcolon ih =>
    simp only [List.length_cons] at hfuel hmore
    obtain ⟨more, rfl⟩ : ∃ n, more = n + 1 := ⟨more - 1, by omega⟩
    have hrest := @ih more (by omega) (by omega)
    simp [replaceEmojiUpTo, hcolon, hrest]
  | case4 fuel c cs hcolon hcode ih =>
    simp only [List.length_cons] at hfuel hmore
    obtain ⟨more, rfl⟩ : ∃ n, more = n + 1 := ⟨more - 1, by omega⟩
    have hrest := @ih more (by omega) (by omega)
    simp [replaceEmojiUpTo, hcolon, codeFrom_append hlater, hcode, hrest]
  | case5 fuel c cs hcolon code hcode written =>
    rename_i ih
    simp only [List.length_cons] at hfuel hmore
    obtain ⟨more, rfl⟩ : ∃ n, more = n + 1 := ⟨more - 1, by omega⟩
    have hle := (codeFrom_suffix hcode).length_le
    have hrest := @ih more (by omega) (by omega)
    have hwritten : (cs ++ later).take ((cs ++ later).length - (code.rest ++ later).length) =
        cs.take (cs.length - code.rest.length) := by
      have hlength : (cs ++ later).length - (code.rest ++ later).length = cs.length - code.rest.length := by
        simp only [List.length_append]
        omega
      rw [hlength, List.take_append_of_le_length (Nat.sub_le ..)]
    have hshown : ({ code with rest := code.rest ++ later } : EmojiCode).shown? = code.shown? := rfl
    rw [List.cons_append, replaceEmojiUpTo, if_neg hcolon, codeFrom_append hlater, hcode]
    simp only [Option.map_some, hshown, hwritten, hrest, written, List.append_assoc]

/-- What has no colon in it stays as it is behind a text with emoji codes. -/
theorem replaceEmoji_append (hlater : ':' ∉ later) (cs : List Char) :
    replaceEmoji (cs ++ later) = replaceEmoji cs ++ later :=
  replaceEmojiUpTo_append hlater (Nat.le_refl _) (by simp)

end FactIntake.Console
