import FactIntake.Proofs.NumberText
import FactIntake.Proofs.TextEscapes

/-!
Documents read back. What is written of a value is read as that value, its repeated keys merged, within
all limits that the value keeps; there is always fuel enough.
-/

namespace FactIntake.Json

open Binary64

mutual

/-- A value that keeps the limits and has only numbers that can be read. -/
def Fits (limits : Limits) : Json → Prop
  | int n => limits.allowDigits (digitCount n.natAbs)
  | float x => x.Canonical
  | array items => ∃ inner, limits.deeper .array = .ok inner ∧ FitsAll inner items
  | object members => ∃ inner, limits.deeper .object = .ok inner ∧ FitsMembers inner members
  | null | bool _ | text _ => True

def FitsAll (limits : Limits) : List Json → Prop
  | [] => True
  | item :: items => Fits limits item ∧ FitsAll limits items

def FitsMembers (limits : Limits) : List (String × Json) → Prop
  | [] => True
  | (_, value) :: members => Fits limits value ∧ FitsMembers limits members

end

mutual

/-- The value with the last value of each key at the first position of the key. -/
def merged : Json → Json
  | array items => array (mergedAll items)
  | object members => object (Entries.putAll [] (mergedMembers members))
  | null => null
  | bool b => bool b
  | int n => int n
  | float x => float x
  | text s => text s

def mergedAll : List Json → List Json
  | [] => []
  | item :: items => merged item :: mergedAll items

def mergedMembers : List (String × Json) → List (String × Json)
  | [] => []
  | (key, value) :: members => (key, merged value) :: mergedMembers members

end

mutual

/-- The values and members in a value, itself included: what is read is read with as much fuel. -/
def weight : Json → Nat
  | array items => 1 + weightAll items
  | object members => 1 + weightMembers members
  | null | bool _ | int _ | float _ | text _ => 1

def weightAll : List Json → Nat
  | [] => 0
  | item :: items => 1 + weight item + weightAll items

def weightMembers : List (String × Json) → Nat
  | [] => 0
  | (_, value) :: members => 1 + weight value + weightMembers members

end

theorem skipSpace_of_head {position : Nat} {rest : List Char}
    (h : ∀ c, rest.head? = some c → isSpace c = false) :
    Cursor.skipSpace ⟨position, rest⟩ = ⟨position, rest⟩ := by
  cases rest with
  | nil => rfl
  | cons c rest => simp [Cursor.skipSpace, h c rfl]

theorem skipSpace_append {position : Nat} {spaces rest : List Char} (hspaces : ∀ c ∈ spaces, isSpace c)
    (h : ∀ c, rest.head? = some c → isSpace c = false) :
    ∃ last, Cursor.skipSpace ⟨position, spaces ++ rest⟩ = ⟨last, rest⟩ := by
  have hrest : rest.dropWhile isSpace = rest := by
    cases rest with
    | nil => rfl
    | cons c rest => simp [h c rfl]
  exact ⟨_, by rw [Cursor.skipSpace, List.dropWhile_append_of_pos hspaces, hrest]⟩

theorem isSpace_of_mem_newline {depth : Nat} {c : Char} (h : c ∈ newline depth) : isSpace c := by
  rcases List.mem_cons.mp h with rfl | h
  · rfl
  · obtain rfl := List.eq_of_mem_replicate h
    rfl

/-- A value whose first character opens neither a text nor a container is a word or a number. -/
theorem readValue_of_head {limits : Limits} {fuel position : Nat} {c : Char} {rest : List Char}
    (hquote : c ≠ '"') (harray : c ≠ '[') (hobject : c ≠ '{') :
    readValue limits (fuel + 1) ⟨position, c :: rest⟩ =
      match readKeyword? ⟨position, c :: rest⟩ with
      | some found => .ok found
      | none => readNumber limits ⟨position, c :: rest⟩ := by
  rw [readValue]
  split
  · simp_all
  · simp_all
  · simp_all
  · cases readKeyword? ⟨position, c :: rest⟩ <;> rfl

theorem readValue_keyword {limits : Limits} {fuel position : Nat} {tail : List Char}
    (word : String × Json) (h : word ∈ keywords) :
    ∃ last, readValue limits (fuel + 1) ⟨position, word.1.toList ++ tail⟩ = .ok (word.2, ⟨last, tail⟩) := by
  simp only [keywords, List.mem_cons, List.not_mem_nil, or_false] at h
  rcases h with rfl | rfl | rfl | rfl | rfl | rfl <;>
    exact ⟨_, readValue_of_head (by decide) (by decide) (by decide)⟩

theorem ne_of_isDigit {c d : Char} (hc : isDigit c) (hd : isDigit d = false) : c ≠ d := by
  rintro rfl
  exact absurd hc (by simp [hd])

section Numeral

variable {negative : Bool} {whole fraction exponent : List Char}

theorem head_numeral_cases (negative : Bool) (hparts : NumeralParts whole fraction exponent) :
    ∃ d rest, isDigit d ∧ numeral negative whole fraction exponent =
      (if negative then ['-'] else []) ++ d :: rest := by
  obtain ⟨d, digits, rfl⟩ := List.exists_cons_of_ne_nil hparts.whole_ne_nil
  exact ⟨d, _, hparts.whole_digits d (by simp), rfl⟩

theorem readValue_numeral {limits : Limits} {fuel position : Nat} {tail : List Char}
    (hparts : NumeralParts whole fraction exponent) :
    readValue limits (fuel + 1) ⟨position, numeral negative whole fraction exponent ++ tail⟩ =
      readNumber limits ⟨position, numeral negative whole fraction exponent ++ tail⟩ := by
  obtain ⟨d, rest, hd, htext⟩ := head_numeral_cases negative hparts
  have hother : ∀ c, isDigit c = false → d ≠ c := fun _ => ne_of_isDigit hd
  rw [htext]
  cases negative with
  | true =>
    have hnone : readKeyword? ⟨position, '-' :: d :: (rest ++ tail)⟩ = none := by
      have hletter : d ≠ 'I' := hother 'I' (by decide)
      simp [readKeyword?, keywords, Ne.symm hletter]
    simp only [if_true, List.cons_append, List.nil_append]
    rw [readValue_of_head (by decide) (by decide) (by decide), hnone]
  | false =>
    have hnone : readKeyword? ⟨position, d :: (rest ++ tail)⟩ = none := by
      simp [readKeyword?, keywords, (hother 'n' (by decide)).symm, (hother 't' (by decide)).symm,
        (hother 'f' (by decide)).symm, (hother 'N' (by decide)).symm, (hother 'I' (by decide)).symm,
        (hother '-' (by decide)).symm]
    simp only [Bool.false_eq_true, if_false, List.nil_append, List.cons_append]
    rw [readValue_of_head (hother _ (by decide)) (hother _ (by decide)) (hother _ (by decide)), hnone]

/-- What a value may begin with: no space, not the end of an array and no mark of an encoding. -/
def opens (c : Char) : Bool := !isSpace c && c != ']' && c != Char.ofNat 0xFEFF

theorem spec_of_opens {c : Char} (h : opens c) : isSpace c = false ∧ c ≠ ']' ∧ c ≠ Char.ofNat 0xFEFF := by
  simpa [opens, and_assoc] using h

theorem opens_of_isDigit {c : Char} (h : isDigit c) : opens c := by
  have hother : ∀ d, isDigit d = false → c ≠ d := fun _ => ne_of_isDigit h
  simp [opens, isSpace, hother ' ' (by decide), hother '\t' (by decide), hother '\n' (by decide),
    hother '\r' (by decide), hother ']' (by decide), hother (Char.ofNat 0xFEFF) (by decide)]

theorem head_numeral_append (tail : List Char) (hparts : NumeralParts whole fraction exponent) :
    ∃ c rest, numeral negative whole fraction exponent ++ tail = c :: rest ∧ opens c := by
  obtain ⟨d, rest, hd, htext⟩ := head_numeral_cases negative hparts
  rw [htext]
  cases negative with
  | true => exact ⟨'-', d :: rest ++ tail, rfl, by decide⟩
  | false => exact ⟨d, rest ++ tail, rfl, opens_of_isDigit hd⟩

end Numeral

/-- A number that can be read is read back. -/
theorem readValue_floatChars {limits : Limits} {fuel : Nat} {x : Binary64} (hx : x.Canonical)
    (position : Nat) {tail : List Char} (h : EndsNumber tail) :
    ∃ last, readValue limits (fuel + 1) ⟨position, floatChars x ++ tail⟩ = .ok (float x, ⟨last, tail⟩) := by
  match x with
  | .nan => exact readValue_keyword ("NaN", float .nan) (by simp [keywords])
  | .infinite false =>
    exact readValue_keyword ("Infinity", float (.infinite false)) (by simp [keywords])
  | .infinite true =>
    exact readValue_keyword ("-Infinity", float (.infinite true)) (by simp [keywords])
  | .finite negative significand e =>
    obtain ⟨whole, fraction, exponent, htext, hparts, hmarked, hvalue⟩ := showChars_eq hx
    obtain ⟨last, hread⟩ := readNumber_numeral limits position negative hparts h
    refine ⟨last, ?_⟩
    rw [show floatChars (.finite negative significand e) = _ from htext, readValue_numeral hparts, hread,
      if_neg (by simp [hmarked]), hvalue]

theorem readValue_intChars {limits : Limits} {fuel : Nat} {n : Int}
    (hn : limits.allowDigits (digitCount n.natAbs)) (position : Nat) {tail : List Char}
    (h : EndsNumber tail) :
    ∃ last, readValue limits (fuel + 1) ⟨position, intChars n ++ tail⟩ = .ok (int n, ⟨last, tail⟩) := by
  obtain ⟨last, hread⟩ := readNumber_intChars hn position h
  refine ⟨last, ?_⟩
  rw [intChars_eq] at hread ⊢
  rw [readValue_numeral (numeralParts_toDigits n.natAbs), hread]

/-- A text and what stands for it between its quotes. -/
theorem textChars_append (charset : Charset) (s : String) (tail : List Char) :
    textChars charset s ++ tail = '"' :: (s.toList.flatMap (escapeChar charset) ++ '"' :: tail) := by
  simp [textChars]

theorem readValue_textChars (limits : Limits) (fuel : Nat) (charset : Charset) (s : String)
    (position : Nat) (tail : List Char) :
    ∃ last, readValue limits (fuel + 1) ⟨position, textChars charset s ++ tail⟩ =
      .ok (text s, ⟨last, tail⟩) := by
  obtain ⟨last, hread⟩ := readText_escaped charset position s.toList tail (position + 1)
  refine ⟨last, ?_⟩
  rw [textChars_append, readValue]
  simp only [hread, Except.map, String.ofList_toList]

theorem head_writeOnto {limits : Limits} (charset : Charset) (depth : Nat) {value : Json}
    (h : Fits limits value) (tail : List Char) :
    ∃ c rest, writeOnto charset depth value tail = c :: rest ∧ opens c := by
  match value with
  | .null => exact ⟨'n', _, rfl, by decide⟩
  | .bool true => exact ⟨'t', _, rfl, by decide⟩
  | .bool false => exact ⟨'f', _, rfl, by decide⟩
  | .text s => exact ⟨'"', _, by rw [writeOnto, textChars_append], by decide⟩
  | .array [] | .array (_ :: _) => exact ⟨'[', _, rfl, by decide⟩
  | .object [] | .object ((_, _) :: _) => exact ⟨'{', _, rfl, by decide⟩
  | .int n =>
    rw [writeOnto, intChars_eq]
    exact head_numeral_append tail (numeralParts_toDigits n.natAbs)
  | .float .nan => exact ⟨'N', _, rfl, by decide⟩
  | .float (.infinite false) => exact ⟨'I', _, rfl, by decide⟩
  | .float (.infinite true) => exact ⟨'-', _, rfl, by decide⟩
  | .float (.finite negative significand e) =>
    obtain ⟨whole, fraction, exponent, htext, hparts, -⟩ := showChars_eq h
    rw [writeOnto, show floatChars (.finite negative significand e) = _ from htext]
    exact head_numeral_append tail hparts

theorem endsNumber_newline (depth : Nat) (rest : List Char) : EndsNumber (newline depth ++ rest) := by
  intro c hc
  obtain rfl : '\n' = c := by simpa [newline] using hc
  decide

theorem endsNumber_items (charset : Charset) (depth outer : Nat) (items : List Json) (rest : List Char) :
    EndsNumber (writeItemsOnto charset depth items (newline outer ++ rest)) := by
  cases items with
  | nil => exact endsNumber_newline outer rest
  | cons item items =>
    intro c hc
    obtain rfl : ',' = c := by simpa [writeItemsOnto] using hc
    decide

theorem endsNumber_members (charset : Charset) (depth outer : Nat) (members : List (String × Json))
    (rest : List Char) :
    EndsNumber (writeMembersOnto charset depth members (newline outer ++ rest)) := by
  cases members with
  | nil => exact endsNumber_newline outer rest
  | cons member members =>
    intro c hc
    obtain rfl : ',' = c := by simpa [writeMembersOnto] using hc
    decide

theorem weight_pos (value : Json) : 0 < weight value := by
  cases value <;> simp only [weight] <;> omega

theorem skipSpace_newline (depth position : Nat) {c : Char} (rest : List Char) (hc : isSpace c = false) :
    ∃ last, Cursor.skipSpace ⟨position, newline depth ++ c :: rest⟩ = ⟨last, c :: rest⟩ := by
  refine skipSpace_append (fun _ => isSpace_of_mem_newline) fun d hd => ?_
  obtain rfl : c = d := by simpa using hd
  exact hc

theorem skipSpace_cons {position : Nat} {c : Char} {rest : List Char} (hc : isSpace c = false) :
    Cursor.skipSpace ⟨position, c :: rest⟩ = ⟨position, c :: rest⟩ := by
  refine skipSpace_of_head fun d hd => ?_
  obtain rfl : c = d := by simpa using hd
  exact hc

theorem skipSpace_textChars (depth position : Nat) (charset : Charset) (s : String) (tail : List Char) :
    ∃ last, Cursor.skipSpace ⟨position, newline depth ++ (textChars charset s ++ tail)⟩ =
      ⟨last, textChars charset s ++ tail⟩ := by
  rw [textChars_append]
  exact skipSpace_newline depth position _ (by decide)

theorem skipSpace_writeOnto {limits : Limits} (charset : Charset) (depth : Nat) {value : Json}
    (h : Fits limits value) (tail : List Char) (position : Nat) :
    ∃ last, Cursor.skipSpace ⟨position, ' ' :: writeOnto charset depth value tail⟩ =
      ⟨last, writeOnto charset depth value tail⟩ := by
  obtain ⟨c, rest, htext, hopens⟩ := head_writeOnto charset depth h tail
  have hblank : ∀ d ∈ [' '], isSpace d := List.forall_mem_singleton.mpr rfl
  refine skipSpace_append hblank fun d hd => ?_
  obtain rfl : c = d := by simpa [htext] using hd
  exact (spec_of_opens hopens).1

section Containers

variable {limits inner : Limits} {fuel position next last : Nat} {cursor after : Cursor} {c : Char}
  {rest more : List Char}

theorem readValue_empty_array (hdeeper : limits.deeper .array = .ok inner) :
    readValue limits (fuel + 1) ⟨position, '[' :: ']' :: rest⟩ =
      .ok (array [], ⟨position + 1 + 1, rest⟩) := by
  rw [readValue]
  simp only [hdeeper, bind, Except.bind, skipSpace_cons (show isSpace ']' = false by decide), pure,
    Except.pure]

theorem readValue_empty_object (hdeeper : limits.deeper .object = .ok inner) :
    readValue limits (fuel + 1) ⟨position, '{' :: '}' :: rest⟩ =
      .ok (object [], ⟨position + 1 + 1, rest⟩) := by
  rw [readValue]
  simp only [hdeeper, bind, Except.bind, skipSpace_cons (show isSpace '}' = false by decide), pure,
    Except.pure]

theorem readValue_of_items {items : List Json} (hdeeper : limits.deeper .array = .ok inner)
    (hskip : Cursor.skipSpace ⟨position + 1, rest⟩ = ⟨next, c :: more⟩) (hc : c ≠ ']')
    (hitems : readItems inner fuel ⟨next, c :: more⟩ = .ok (items, after)) :
    readValue limits (fuel + 1) ⟨position, '[' :: rest⟩ = .ok (array items, after) := by
  rw [readValue]
  simp only [hdeeper, hskip, bind, Except.bind]
  split
  · next heq => exact absurd (List.cons.inj heq).1 hc
  · simp only [hitems, pure, Except.pure]

theorem readValue_of_members {members : List (String × Json)} (hdeeper : limits.deeper .object = .ok inner)
    (hskip : Cursor.skipSpace ⟨position + 1, rest⟩ = ⟨next, c :: more⟩) (hc : c ≠ '}')
    (hmembers : readMembers inner fuel ⟨next, c :: more⟩ = .ok (members, after)) :
    readValue limits (fuel + 1) ⟨position, '{' :: rest⟩ =
      .ok (object (Entries.putAll [] members), after) := by
  rw [readValue]
  simp only [hdeeper, hskip, bind, Except.bind]
  split
  · next heq => exact absurd (List.cons.inj heq).1 hc
  · simp only [hmembers, pure, Except.pure]

theorem readItems_of_last {item : Json} (hitem : readValue limits fuel cursor = .ok (item, after))
    (hafter : after.skipSpace = ⟨last, ']' :: rest⟩) :
    readItems limits (fuel + 1) cursor = .ok ([item], ⟨last + 1, rest⟩) := by
  rw [readItems]
  simp only [hitem, hafter, bind, Except.bind, pure, Except.pure]

theorem readItems_of_more {item : Json} {items : List Json} {ending : Cursor}
    (hitem : readValue limits fuel cursor = .ok (item, after))
    (hafter : after.skipSpace = ⟨last, ',' :: rest⟩)
    (hitems : readItems limits fuel (Cursor.skipSpace ⟨last + 1, rest⟩) = .ok (items, ending)) :
    readItems limits (fuel + 1) cursor = .ok (item :: items, ending) := by
  rw [readItems]
  simp only [hitem, hafter, hitems, bind, Except.bind, pure, Except.pure]

theorem readMembers_of_last {key : List Char} {value : Json} {colon : Nat} {named : Cursor}
    (hkey : readText position (position + 1) rest = .ok (key, named))
    (hnamed : named.skipSpace = ⟨colon, ':' :: more⟩)
    (hvalue : readValue limits fuel (Cursor.skipSpace ⟨colon + 1, more⟩) = .ok (value, after))
    {tail : List Char} (hafter : after.skipSpace = ⟨last, '}' :: tail⟩) :
    readMembers limits (fuel + 1) ⟨position, '"' :: rest⟩ =
      .ok ([(String.ofList key, value)], ⟨last + 1, tail⟩) := by
  rw [readMembers]
  simp only [hkey, hnamed, hvalue, hafter, bind, Except.bind, pure, Except.pure]

theorem readMembers_of_more {key : List Char} {value : Json} {colon : Nat} {named ending : Cursor}
    (hkey : readText position (position + 1) rest = .ok (key, named))
    (hnamed : named.skipSpace = ⟨colon, ':' :: more⟩)
    (hvalue : readValue limits fuel (Cursor.skipSpace ⟨colon + 1, more⟩) = .ok (value, after))
    {tail : List Char} (hafter : after.skipSpace = ⟨last, ',' :: tail⟩)
    {members : List (String × Json)}
    (hmembers : readMembers limits fuel (Cursor.skipSpace ⟨last + 1, tail⟩) = .ok (members, ending)) :
    readMembers limits (fuel + 1) ⟨position, '"' :: rest⟩ =
      .ok ((String.ofList key, value) :: members, ending) := by
  rw [readMembers]
  simp only [hkey, hnamed, hvalue, hafter, hmembers, bind, Except.bind, pure, Except.pure]

end Containers

/-- With this much fuel the reader gives back what is written of a value, of the items of an array and of
the members of an object, up to the end of its container. -/
structure ReadsBack (charset : Charset) (fuel : Nat) : Prop where
  value : ∀ {limits : Limits} {value : Json}, Fits limits value → weight value ≤ fuel →
    ∀ (depth position : Nat) {tail : List Char}, EndsNumber tail →
      ∃ last, readValue limits fuel ⟨position, writeOnto charset depth value tail⟩ =
        .ok (merged value, ⟨last, tail⟩)
  items : ∀ {limits : Limits} {item : Json} {items : List Json}, FitsAll limits (item :: items) →
    weightAll (item :: items) ≤ fuel → ∀ (depth outer position : Nat) (tail : List Char),
      ∃ last, readItems limits fuel ⟨position, writeOnto charset depth item
          (writeItemsOnto charset depth items (newline outer ++ ']' :: tail))⟩ =
        .ok (mergedAll (item :: items), ⟨last, tail⟩)
  members : ∀ {limits : Limits} {key : String} {value : Json} {members : List (String × Json)},
    FitsMembers limits ((key, value) :: members) → weightMembers ((key, value) :: members) ≤ fuel →
      ∀ (depth outer position : Nat) (tail : List Char),
        ∃ last, readMembers limits fuel ⟨position, textChars charset key ++ (':' :: ' ' ::
            writeOnto charset depth value
              (writeMembersOnto charset depth members (newline outer ++ '}' :: tail)))⟩ =
          .ok (mergedMembers ((key, value) :: members), ⟨last, tail⟩)

namespace ReadsBack

variable {charset : Charset} {limits : Limits} {fuel : Nat}

theorem value_succ (h : ReadsBack charset fuel) {value : Json} (hfits : Fits limits value)
    (hfuel : weight value ≤ fuel + 1) (depth position : Nat) {tail : List Char} (htail : EndsNumber tail) :
    ∃ last, readValue limits (fuel + 1) ⟨position, writeOnto charset depth value tail⟩ =
      .ok (merged value, ⟨last, tail⟩) := by
  match value with
  | .null => exact readValue_keyword ("null", null) (by simp [keywords])
  | .bool true => exact readValue_keyword ("true", bool true) (by simp [keywords])
  | .bool false => exact readValue_keyword ("false", bool false) (by simp [keywords])
  | .int n => exact readValue_intChars hfits position htail
  | .float x => exact readValue_floatChars hfits position htail
  | .text s => exact readValue_textChars limits fuel charset s position tail
  | .array [] =>
    obtain ⟨inner, hdeeper, -⟩ := hfits
    exact ⟨_, readValue_empty_array hdeeper⟩
  | .array (item :: items) =>
    obtain ⟨inner, hdeeper, hitems⟩ := hfits
    obtain ⟨c, more, hitem, hopens⟩ := head_writeOnto charset (depth + 1) hitems.1
      (writeItemsOnto charset (depth + 1) items (newline depth ++ ']' :: tail))
    obtain ⟨next, hskip⟩ := skipSpace_newline (depth + 1) (position + 1) more (spec_of_opens hopens).1
    have henough : weightAll (item :: items) ≤ fuel := by
      rw [weight] at hfuel
      omega
    obtain ⟨last, hread⟩ := h.items hitems henough (depth + 1) depth next tail
    rw [hitem] at hread
    refine ⟨last, ?_⟩
    rw [writeOnto, List.cons_append, hitem]
    exact readValue_of_items hdeeper hskip (spec_of_opens hopens).2.1 hread
  | .object [] =>
    obtain ⟨inner, hdeeper, -⟩ := hfits
    exact ⟨_, readValue_empty_object hdeeper⟩
  | .object ((key, value) :: members) =>
    obtain ⟨inner, hdeeper, hmembers⟩ := hfits
    obtain ⟨next, hskip⟩ := skipSpace_textChars (depth + 1) (position + 1) charset key
      (':' :: ' ' :: writeOnto charset (depth + 1) value
        (writeMembersOnto charset (depth + 1) members (newline depth ++ '}' :: tail)))
    have henough : weightMembers ((key, value) :: members) ≤ fuel := by
      rw [weight] at hfuel
      omega
    obtain ⟨last, hread⟩ := h.members hmembers henough (depth + 1) depth next tail
    refine ⟨last, ?_⟩
    rw [writeOnto, List.append_assoc, List.cons_append]
    rw [textChars_append] at hskip hread ⊢
    exact readValue_of_members hdeeper hskip (by decide) hread

theorem items_succ (h : ReadsBack charset fuel) {item : Json} {items : List Json}
    (hfits : FitsAll limits (item :: items)) (hfuel : weightAll (item :: items) ≤ fuel + 1)
    (depth outer position : Nat) (tail : List Char) :
    ∃ last, readItems limits (fuel + 1) ⟨position, writeOnto charset depth item
        (writeItemsOnto charset depth items (newline outer ++ ']' :: tail))⟩ =
      .ok (mergedAll (item :: items), ⟨last, tail⟩) := by
  rw [weightAll] at hfuel
  have hfirst : weight item ≤ fuel := by omega
  have hlater : weightAll items ≤ fuel := by omega
  obtain ⟨after, hitem⟩ :=
    h.value hfits.1 hfirst depth position (endsNumber_items charset depth outer items (']' :: tail))
  match items with
  | [] =>
    obtain ⟨last, hskip⟩ := skipSpace_newline outer after tail (show isSpace ']' = false by decide)
    exact ⟨last + 1, readItems_of_last hitem hskip⟩
  | second :: items =>
    obtain ⟨c, more, hsecond, hopens⟩ := head_writeOnto charset depth hfits.2.1
      (writeItemsOnto charset depth items (newline outer ++ ']' :: tail))
    obtain ⟨next, hskip⟩ := skipSpace_newline depth (after + 1) more (spec_of_opens hopens).1
    obtain ⟨last, hread⟩ := h.items hfits.2 hlater depth outer next tail
    rw [hsecond, ← hskip, ← hsecond] at hread
    exact ⟨last, readItems_of_more hitem (skipSpace_cons (by decide)) hread⟩

theorem members_succ (h : ReadsBack charset fuel) {key : String} {value : Json}
    {members : List (String × Json)} (hfits : FitsMembers limits ((key, value) :: members))
    (hfuel : weightMembers ((key, value) :: members) ≤ fuel + 1) (depth outer position : Nat)
    (tail : List Char) :
    ∃ last, readMembers limits (fuel + 1) ⟨position, textChars charset key ++ (':' :: ' ' ::
        writeOnto charset depth value
          (writeMembersOnto charset depth members (newline outer ++ '}' :: tail)))⟩ =
      .ok (mergedMembers ((key, value) :: members), ⟨last, tail⟩) := by
  rw [weightMembers] at hfuel
  have hfirst : weight value ≤ fuel := by omega
  have hlater : weightMembers members ≤ fuel := by omega
  have hends := endsNumber_members charset depth outer members ('}' :: tail)
  generalize hrest : writeMembersOnto charset depth members (newline outer ++ '}' :: tail) = rest at hends ⊢
  -- The key is read up to its quote, the value up to what comes after it in the object.
  obtain ⟨named, hkey⟩ := readText_escaped charset position key.toList
    (':' :: ' ' :: writeOnto charset depth value rest) (position + 1)
  have hcolon : Cursor.skipSpace ⟨named, ':' :: ' ' :: writeOnto charset depth value rest⟩ =
      ⟨named, ':' :: ' ' :: writeOnto charset depth value rest⟩ := skipSpace_cons (by decide)
  obtain ⟨start, hspaced⟩ := skipSpace_writeOnto charset depth hfits.1 rest (named + 1)
  obtain ⟨after, hvalue⟩ := h.value hfits.1 hfirst depth start hends
  rw [← hspaced] at hvalue
  rw [textChars_append]
  subst hrest
  match members with
  | [] =>
    obtain ⟨last, hskip⟩ := skipSpace_newline outer after tail (show isSpace '}' = false by decide)
    refine ⟨last + 1, ?_⟩
    rw [readMembers_of_last hkey hcolon hvalue hskip, String.ofList_toList]
    rfl
  | (second, other) :: members =>
    obtain ⟨next, hskip⟩ := skipSpace_textChars depth (after + 1) charset second
      (':' :: ' ' :: writeOnto charset depth other
        (writeMembersOnto charset depth members (newline outer ++ '}' :: tail)))
    obtain ⟨last, hread⟩ := h.members hfits.2 hlater depth outer next tail
    rw [← hskip, ← List.append_assoc] at hread
    refine ⟨last, ?_⟩
    rw [readMembers_of_more hkey hcolon hvalue (skipSpace_cons (by decide)) hread, String.ofList_toList]
    rfl

end ReadsBack

/-- Everything is read back, by induction on the fuel: each container is read with one less. -/
theorem readsBack (charset : Charset) (fuel : Nat) : ReadsBack charset fuel := by
  induction fuel with
  | zero =>
    refine ⟨fun {_ value} _ hfuel => ?_, fun _ hfuel => ?_, fun _ hfuel => ?_⟩
    · exact absurd (weight_pos value) (by omega)
    · rw [weightAll] at hfuel
      omega
    · rw [weightMembers] at hfuel
      omega
  | succ fuel ih => exact ⟨ih.value_succ, ih.items_succ, ih.members_succ⟩

theorem weight_le_of_scalar {limits : Limits} (charset : Charset) {value : Json} {chars : List Char}
    (hfits : Fits limits value) (hweight : weight value = 1)
    (htext : ∀ tail, writeOnto charset 0 value tail = chars ++ tail) (tail : List Char) :
    weight value + 2 * tail.length ≤ 2 * (chars ++ tail).length := by
  obtain ⟨c, rest, hhead, -⟩ := head_writeOnto charset 0 hfits []
  rw [htext, List.append_nil] at hhead
  rw [hweight, hhead, List.length_append, List.length_cons]
  omega

mutual

theorem weight_le (charset : Charset) : ∀ (limits : Limits) (depth : Nat) (value : Json) (tail : List Char),
    Fits limits value →
      weight value + 2 * tail.length ≤ 2 * (writeOnto charset depth value tail).length
  | _, _, .null, tail, h => weight_le_of_scalar charset h rfl (fun _ => rfl) tail
  | _, _, .bool true, tail, h => weight_le_of_scalar charset h rfl (fun _ => rfl) tail
  | _, _, .bool false, tail, h => weight_le_of_scalar charset h rfl (fun _ => rfl) tail
  | _, _, .int _, tail, h => weight_le_of_scalar charset h rfl (fun _ => rfl) tail
  | _, _, .float _, tail, h => weight_le_of_scalar charset h rfl (fun _ => rfl) tail
  | _, _, .text _, tail, h => weight_le_of_scalar charset h rfl (fun _ => rfl) tail
  | _, _, .array [], tail, _ => by
    simp only [weight, weightAll, writeOnto, List.length_cons]
    omega
  | _, depth, .array (item :: items), tail, ⟨inner, _, hitem, hitems⟩ => by
    have hlater := weightAll_le charset inner (depth + 1) items (newline depth ++ ']' :: tail) hitems
    have hfirst := weight_le charset inner (depth + 1) item
      (writeItemsOnto charset (depth + 1) items (newline depth ++ ']' :: tail)) hitem
    simp only [weight, weightAll, writeOnto, List.length_cons, List.length_append] at hfirst hlater ⊢
    omega
  | _, _, .object [], tail, _ => by
    simp only [weight, weightMembers, writeOnto, List.length_cons]
    omega
  | _, depth, .object ((key, value) :: members), tail, ⟨inner, _, hvalue, hmembers⟩ => by
    have hlater := weightMembers_le charset inner (depth + 1) members (newline depth ++ '}' :: tail) hmembers
    have hfirst := weight_le charset inner (depth + 1) value
      (writeMembersOnto charset (depth + 1) members (newline depth ++ '}' :: tail)) hvalue
    simp only [weight, weightMembers, writeOnto, List.length_cons, List.length_append] at hfirst hlater ⊢
    omega

theorem weightAll_le (charset : Charset) : ∀ (limits : Limits) (depth : Nat) (items : List Json)
    (tail : List Char), FitsAll limits items →
      weightAll items + 2 * tail.length ≤ 2 * (writeItemsOnto charset depth items tail).length
  | _, _, [], tail, _ => by simp [weightAll, writeItemsOnto]
  | limits, depth, item :: items, tail, ⟨hitem, hitems⟩ => by
    have hlater := weightAll_le charset limits depth items tail hitems
    have hfirst := weight_le charset limits depth item (writeItemsOnto charset depth items tail) hitem
    simp only [weightAll, writeItemsOnto, List.length_cons, List.length_append] at hfirst hlater ⊢
    omega

theorem weightMembers_le (charset : Charset) : ∀ (limits : Limits) (depth : Nat)
    (members : List (String × Json)) (tail : List Char), FitsMembers limits members →
      weightMembers members + 2 * tail.length ≤ 2 * (writeMembersOnto charset depth members tail).length
  | _, _, [], tail, _ => by simp [weightMembers, writeMembersOnto]
  | limits, depth, (key, value) :: members, tail, ⟨hvalue, hmembers⟩ => by
    have hlater := weightMembers_le charset limits depth members tail hmembers
    have hfirst := weight_le charset limits depth value (writeMembersOnto charset depth members tail) hvalue
    simp only [weightMembers, writeMembersOnto, List.length_cons, List.length_append] at hfirst hlater ⊢
    omega

end

/-- A document holds its value, within all limits that the value keeps. -/
theorem read_write {limits : Limits} (charset : Charset) {value : Json} (h : Fits limits value) :
    read limits (value.write charset) = .ok (merged value) := by
  obtain ⟨c, rest, htext, hopens⟩ := head_writeOnto charset 0 h []
  obtain ⟨hspace, -, hmark⟩ := spec_of_opens hopens
  have hfuel : weight value ≤ 2 * (writeOnto charset 0 value []).length + 2 :=
    (weight_le charset limits 0 value [] h).trans (Nat.le_add_right _ 2)
  have hend : EndsNumber [] := fun c hc => by simp at hc
  obtain ⟨last, hread⟩ := (readsBack charset _).value h hfuel 0 0 hend
  rw [htext] at hread
  rw [read, write, String.toList_ofList, writeChars, htext, readDocument, if_neg (by simpa using hmark),
    skipSpace_cons hspace]
  simp only [hread, bind, Except.bind]
  rfl

end FactIntake.Json
