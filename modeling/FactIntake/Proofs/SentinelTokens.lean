import FactIntake.Command.Arguments
import FactIntake.Proofs.CommandLine
import Mathlib.Data.List.TakeWhile

/-!
Tokens of the compile command that are moved behind two hyphens. Moving is sorting by adjacency: a
sentinel is moved unless the name of an option that takes a value comes right before it. What stands in
front and is moved, though it was read as it stood, is an option that carries its value; without it the
other tokens are read as before.
-/

namespace FactIntake.Arguments

open Options

/-- An option and its value in one token. -/
def carriesValue (token : String) : Bool :=
  specs.any fun spec => spec.takesValue &&
    ((spec.long.toList ++ ['=']).isPrefixOf token.toList ||
      spec.letter.any fun letter =>
        ['-', letter].isPrefixOf token.toList && token != letterName letter)

/-- What an accepted token says: an option with its value, the name of an option that awaits a value, or
an option that takes none. -/
inductive Meaning (token : String) : Said CompileOption → Prop
  | carried {option : CompileOption} {value : String} (hcarries : carriesValue token)
      (hoption : option ≠ .help) : Meaning token ⟨[(option, some value)], none⟩
  | name {option : CompileOption} (hname : token ∈ valueOptions) :
      Meaning token ⟨[], some (option, token)⟩
  | flag {option : CompileOption} (hflag : token = "--json" ∨ token = "--help") :
      Meaning token ⟨[(option, none)], none⟩

theorem option_ne_help : ∀ spec ∈ specs, spec.takesValue → spec.option ≠ .help := by decide

theorem takesValue_of_letter : ∀ spec ∈ specs, spec.letter.isSome → spec.takesValue := by decide

theorem long_mem_valueOptions : ∀ spec ∈ specs, spec.takesValue → spec.long ∈ valueOptions := by decide

theorem letterName_mem_valueOptions :
    ∀ spec ∈ specs, ∀ letter ∈ spec.letter, letterName letter ∈ valueOptions := by
  have hnames : ∀ spec ∈ specs, spec.letter.all (letterName · ∈ valueOptions) := by decide
  intro spec hspec letter hletter
  simpa using (Option.all_eq_true _ _).mp (hnames spec hspec) letter hletter

theorem long_of_flag :
    ∀ spec ∈ specs, spec.takesValue = false → spec.long = "--json" ∨ spec.long = "--help" := by decide

theorem carriesValue_of_long {token : String} {value : List Char} {spec : Spec CompileOption}
    (hspec : spec ∈ specs) (hvalue : spec.takesValue)
    (htoken : token.toList = spec.long.toList ++ '=' :: value) : carriesValue token := by
  refine List.any_eq_true.mpr ⟨spec, hspec, ?_⟩
  have hprefix : (spec.long.toList ++ ['=']).isPrefixOf token.toList := by
    rw [List.isPrefixOf_iff_prefix, htoken]
    exact ⟨value, by simp⟩
  simp [hvalue, hprefix]

theorem carriesValue_of_letter {token : String} {letter : Char} {value : List Char}
    {spec : Spec CompileOption} (hspec : spec ∈ specs) (hletter : spec.letter = some letter)
    (htoken : token.toList = '-' :: letter :: value) (hvalue : value ≠ []) : carriesValue token := by
  refine List.any_eq_true.mpr ⟨spec, hspec, ?_⟩
  have hprefix : ['-', letter].isPrefixOf token.toList := by
    rw [List.isPrefixOf_iff_prefix, htoken]
    exact ⟨value, rfl⟩
  have hname : token ≠ letterName letter := by
    rintro rfl
    simp [letterName] at htoken
    exact hvalue htoken
  simp [takesValue_of_letter spec hspec (by simp [hletter]), hletter, hprefix, hname]

/-- A cluster of letters says what its first letter says: that takes a value. -/
theorem meaning_of_readCluster {token : String} {letter : Char} {value : List Char}
    {said : Said CompileOption} (htoken : token.toList = '-' :: letter :: value)
    (h : readCluster specs (letter :: value) = .ok said) : Meaning token said := by
  unfold readCluster at h
  cases hfind : byLetter? specs letter with
  | none => simp [hfind] at h
  | some spec =>
    have hspec : spec ∈ specs := List.mem_of_find?_eq_some hfind
    have hletter : spec.letter = some letter := by
      simpa using List.find?_some hfind
    have htakes := takesValue_of_letter spec hspec (by simp [hletter])
    simp only [hfind, htakes, if_true] at h
    split at h
    · next hempty =>
      obtain rfl : value = [] := by simpa using hempty
      obtain rfl := Except.ok.inj h
      have hname : letterName letter = token := by
        rw [letterName, ← htoken, String.ofList_toList]
      rw [hname]
      exact .name (hname ▸ letterName_mem_valueOptions spec hspec letter hletter)
    · next hvalue =>
      obtain rfl := Except.ok.inj h
      exact .carried (carriesValue_of_letter hspec hletter htoken (by simpa using hvalue))
        (option_ne_help spec hspec htakes)

/-- A long option says its value if that is attached. -/
theorem meaning_of_long {token : String} {spec : Spec CompileOption} {said : Said CompileOption}
    (hfind : byLong? specs (splitAttached token.toList).1 = some spec)
    (h : readToken specs token = .ok said) : Meaning token said := by
  have hspec : spec ∈ specs := List.mem_of_find?_eq_some hfind
  have hlong : spec.long = (splitAttached token.toList).1 := by simpa using List.find?_some hfind
  by_cases hequals : '=' ∈ token.toList
  · -- The value is what follows the first equals sign.
    obtain ⟨value, hvalue⟩ : ∃ value, token.toList.dropWhile (· != '=') = '=' :: value := by
      cases hdrop : token.toList.dropWhile (· != '=') with
      | nil =>
        have hall := List.dropWhile_eq_nil_iff.mp hdrop '=' hequals
        simp at hall
      | cons c value =>
        have hc := List.head_dropWhile_not (· != '=') (l := token.toList) (by simp [hdrop])
        simp only [hdrop, List.head_cons, bne_eq_false_iff_eq] at hc
        exact ⟨value, by rw [hc]⟩
    have htoken : token.toList = spec.long.toList ++ '=' :: value := by
      rw [hlong, splitAttached, String.toList_ofList, ← hvalue, List.takeWhile_append_dropWhile]
    have hattached : (splitAttached token.toList).2 = some (String.ofList value) := by
      simp [splitAttached, hequals, hvalue]
    simp only [readToken, hfind, hattached] at h
    split at h
    · next htakes =>
      obtain rfl := Except.ok.inj h
      exact .carried (carriesValue_of_long hspec htakes htoken) (option_ne_help spec hspec htakes)
    · simp at h
  · have hattached : (splitAttached token.toList).2 = none := by simp [splitAttached, hequals]
    have hname : (splitAttached token.toList).1 = token := by
      have hall : token.toList.takeWhile (· != '=') = token.toList := by
        refine List.takeWhile_eq_self_iff.mpr fun c hc => ?_
        have hne : c ≠ '=' := fun heq => hequals (heq ▸ hc)
        simpa using hne
      rw [splitAttached, hall, String.ofList_toList]
    simp only [readToken, hfind, hattached] at h
    rw [hname] at h hlong
    split at h
    · next htakes =>
      obtain rfl := Except.ok.inj h
      exact .name (hlong ▸ long_mem_valueOptions spec hspec htakes)
    · next htakes =>
      obtain rfl := Except.ok.inj h
      exact .flag (hlong ▸ long_of_flag spec hspec (by simpa using htakes))

theorem meaning_of_readToken {token : String} {said : Said CompileOption}
    (hoption : looksLikeOption token) (h : readToken specs token = .ok said) : Meaning token said := by
  cases hfind : byLong? specs (splitAttached token.toList).1 with
  | some spec => exact meaning_of_long hfind h
  | none =>
    obtain ⟨letter, value, htoken⟩ : ∃ letter value, token.toList = '-' :: letter :: value := by
      rw [looksLikeOption, ← String.length_toList] at hoption
      match htoken : token.toList with
      | [] | [_] => simp [htoken] at hoption
      | first :: letter :: value =>
        obtain rfl : first = '-' := by simpa [htoken] using hoption
        exact ⟨letter, value, rfl⟩
    simp only [readToken, hfind] at h
    split at h
    · simp at h
    · exact meaning_of_readCluster htoken (by simpa [htoken] using h)

/-- Whether a token is the name of an option that takes a value. -/
def namesOption (token : Option String) : Bool := token.any valueOptions.contains

/-- Whether a token is moved that has `previous` right before it. -/
def isMoved (previous : Option String) (token : String) : Bool :=
  isSentinel token && !namesOption previous

def sortAfter (previous : Option String) : List String → Sorted
  | [] => ⟨[], []⟩
  | token :: rest =>
    let later := sortAfter (some token) rest
    if isMoved previous token then ⟨later.kept, token :: later.moved⟩
    else ⟨token :: later.kept, later.moved⟩

theorem not_isSentinel_of_name : ∀ token ∈ valueOptions, isSentinel token = false := by decide

theorem not_isSentinel_of_operand {token : String} (h : ¬ looksLikeOption token) :
    isSentinel token = false := by
  cases hhead : token.toList.head? == some '-' with
  | false => simp [isSentinel, hhead]
  | true =>
    obtain rfl : token = "-" := by
      rw [← String.ofList_toList (s := token)]
      rw [looksLikeOption, ← String.length_toList, hhead] at h
      match htoken : token.toList with
      | [] => simp [htoken] at hhead
      | [c] =>
        obtain rfl : c = '-' := by simpa [htoken] using hhead
        rfl
      | _ :: _ :: _ => simp [htoken] at h
    decide

theorem namesOption_sentinel {token : String} (h : isSentinel token) :
    namesOption (some token) = false := by
  by_contra hname
  have hmem : token ∈ valueOptions := by simpa [namesOption] using hname
  rw [not_isSentinel_of_name token hmem] at h
  contradiction

theorem add_eq (sorted : Sorted) (token : String) :
    sorted.add token =
      if isMoved sorted.kept.getLast? token then { sorted with moved := sorted.moved ++ [token] }
      else { sorted with kept := sorted.kept ++ [token] } := by
  unfold Sorted.add isMoved namesOption
  cases sorted.kept.getLast? <;> rfl

/-- The token that was kept last counts as the token right before: between them are sentinels only,
and none of these is the name of an option. -/
theorem foldl_add (args : List String) (sorted : Sorted) (previous : Option String)
    (hprevious : namesOption sorted.kept.getLast? = namesOption previous) :
    args.foldl Sorted.add sorted =
      ⟨sorted.kept ++ (sortAfter previous args).kept, sorted.moved ++ (sortAfter previous args).moved⟩ := by
  induction args generalizing sorted previous with
  | nil => simp [sortAfter]
  | cons token rest ih =>
    have hmoves : isMoved sorted.kept.getLast? token = isMoved previous token := by
      simp only [isMoved, hprevious]
    rw [List.foldl_cons, add_eq, hmoves, sortAfter]
    cases hmoved : isMoved previous token with
    | true =>
      simp only [isMoved, Bool.and_eq_true, Bool.not_eq_true'] at hmoved
      simp only [if_true]
      rw [ih _ (some token)]
      · simp
      · rw [namesOption_sentinel hmoved.1, ← hmoved.2]
        exact hprevious
    | false =>
      simp only [Bool.false_eq_true, if_false]
      rw [ih _ (some token)]
      · simp
      · simp

theorem sort_eq (args : List String) : sort args = sortAfter none args := by
  rw [sort, foldl_add args ⟨[], []⟩ none rfl]
  simp

/-- The token before a position; before the first one stands what comes before the line. -/
def tokenBefore (previous : Option String) (args : List String) : Nat → Option String
  | 0 => previous
  | i + 1 => args[i]?

theorem tokenBefore_cons (previous : Option String) (first : String) (rest : List String) (i : Nat) :
    tokenBefore previous (first :: rest) (i + 1) = tokenBefore (some first) rest i := by
  cases i <;> rfl

theorem mem_moved_iff {previous : Option String} {args : List String} {token : String} :
    token ∈ (sortAfter previous args).moved ↔
      ∃ i, args[i]? = some token ∧ isMoved (tokenBefore previous args i) token := by
  induction args generalizing previous with
  | nil => simp [sortAfter]
  | cons first rest ih =>
    rw [← Nat.or_exists_add_one]
    simp only [tokenBefore_cons, List.getElem?_cons_succ, ← ih]
    cases hmoved : isMoved previous first with
    | true =>
      simp only [sortAfter, hmoved, if_true, List.mem_cons, List.getElem?_cons_zero, tokenBefore,
        Option.some.injEq]
      refine or_congr ⟨?_, fun h => h.1.symm⟩ Iff.rfl
      rintro rfl
      exact ⟨rfl, hmoved⟩
    | false =>
      simp only [sortAfter, hmoved, Bool.false_eq_true, if_false, List.getElem?_cons_zero, tokenBefore,
        Option.some.injEq]
      refine (or_iff_right ?_).symm
      rintro ⟨rfl, hmoves⟩
      rw [hmoved] at hmoves
      contradiction

theorem sortAfter_append (previous : Option String) (before after : List String) :
    sortAfter previous (before ++ after) =
      ⟨(sortAfter previous before).kept ++
          (sortAfter (tokenBefore previous before before.length) after).kept,
        (sortAfter previous before).moved ++
          (sortAfter (tokenBefore previous before before.length) after).moved⟩ := by
  induction before generalizing previous with
  | nil => rfl
  | cons first rest ih =>
    rw [List.cons_append, sortAfter, ih, List.length_cons, tokenBefore_cons]
    cases hmoved : isMoved previous first <;> simp [sortAfter, hmoved]

theorem tokenBefore_length (args : List String) : tokenBefore none args args.length = args.getLast? := by
  cases args with
  | nil => rfl
  | cons first rest => simp [tokenBefore, List.getLast?_eq_getElem?]

/-- A line of which nothing is moved stays as it is. -/
theorem kept_of_moved_eq_nil {previous : Option String} {args : List String}
    (h : (sortAfter previous args).moved = []) : (sortAfter previous args).kept = args := by
  induction args generalizing previous with
  | nil => rfl
  | cons first rest ih =>
    cases hmoved : isMoved previous first with
    | true => simp [sortAfter, hmoved] at h
    | false =>
      simp only [sortAfter, hmoved, Bool.false_eq_true, if_false] at h ⊢
      rw [ih h]

theorem shift_eq (args : List String) :
    shift args = if (sortAfter none args).moved = [] then args
      else (sortAfter none args).kept ++ endMark :: (sortAfter none args).moved := by
  simp only [shift, sort_eq, List.isEmpty_iff]

/-- What a token leaves in front of the line, or waits there, agrees with the token before it. -/
def Agrees (previous : Option String) : Standing CompileOption → Prop
  | .front => True
  | .awaiting _ _ => namesOption previous
  | .behind => False

theorem agrees_front (previous : Option String) : Agrees previous .front := trivial

theorem readNext_front {token : String} {first : Scan CompileOption} (hmark : token ≠ endMark)
    (h : readNext specs .front token = .ok first) :
    (∃ said, looksLikeOption token ∧ Meaning token said ∧
      first = ⟨⟨said.given, []⟩, said.standing⟩) ∨
    (¬ looksLikeOption token ∧ first = ⟨⟨[], [token]⟩, .front⟩) := by
  have hmark' : ¬ token == endMark := by simpa using hmark
  by_cases hoption : looksLikeOption token
  · rw [readNext_option hmark' hoption, Results.map_eq_ok_iff] at h
    obtain ⟨said, hread, rfl⟩ := h
    exact Or.inl ⟨said, hoption, meaning_of_readToken hoption hread, rfl⟩
  · rw [readNext_operand hmark' hoption] at h
    exact Or.inr ⟨hoption, (Except.ok.inj h).symm⟩

theorem agrees_readNext {standing : Standing CompileOption} {previous : Option String} {token : String}
    {first : Scan CompileOption} (hstanding : Agrees previous standing) (hmark : token ≠ endMark)
    (h : readNext specs standing token = .ok first) : Agrees (some token) first.standing := by
  cases standing with
  | behind => exact hstanding.elim
  | awaiting option name =>
    obtain rfl := Except.ok.inj h
    trivial
  | front =>
    rcases readNext_front hmark h with ⟨said, -, hmeaning, rfl⟩ | ⟨-, rfl⟩
    · cases hmeaning with
      | name hname =>
        show namesOption (some token)
        simpa [namesOption] using hname
      | carried => trivial
      | flag => trivial
    · trivial

/-- A sentinel that is read in front belongs to an option that carries its value. -/
theorem readNext_sentinel {token : String} {first : Scan CompileOption} (hsentinel : isSentinel token)
    (h : readNext specs .front token = .ok first) :
    carriesValue token ∧ first.standing = .front ∧ first.parsed.positional = [] ∧
      first.parsed.has .help = false := by
  have hmark : token ≠ endMark := by
    rintro rfl
    exact absurd hsentinel (by decide)
  rcases readNext_front hmark h with ⟨said, -, hmeaning, rfl⟩ | ⟨hoption, -⟩
  · cases hmeaning with
    | carried hcarries hoption =>
      refine ⟨hcarries, rfl, rfl, ?_⟩
      simpa [Parsed.has] using hoption
    | name hname =>
      rw [not_isSentinel_of_name token hname] at hsentinel
      contradiction
    | flag hflag =>
      rcases hflag with rfl | rfl <;> exact absurd hsentinel (by decide)
  · rw [not_isSentinel_of_operand hoption] at hsentinel
    contradiction

/-- A reading that lacks nothing of another but options that take a value. -/
structure Thins (thin full : Scan CompileOption) : Prop where
  standing : thin.standing = full.standing
  positional : thin.parsed.positional = full.parsed.positional
  help : thin.parsed.has .help = full.parsed.has .help

theorem has_append (first later : Parsed CompileOption) (option : CompileOption) :
    (first.append later).has option = (first.has option || later.has option) := by
  simp [Parsed.has]

/-- Without the tokens that are moved, what is left is read as before; the options that are moved are
those that carry their value. -/
theorem scan_kept {standing : Standing CompileOption} {previous : Option String} {tokens : List String}
    {scanned : Scan CompileOption} (hagrees : Agrees previous standing) (hmark : endMark ∉ tokens)
    (h : scan specs standing tokens = .ok scanned) :
    (∃ kept, scan specs standing (sortAfter previous tokens).kept = .ok kept ∧ Thins kept scanned) ∧
      ∀ token ∈ (sortAfter previous tokens).moved, carriesValue token := by
  induction tokens generalizing standing previous scanned with
  | nil => exact ⟨⟨scanned, h, rfl, rfl, rfl⟩, by simp [sortAfter]⟩
  | cons token rest ih =>
    obtain ⟨hne, hrest⟩ : endMark ≠ token ∧ endMark ∉ rest := by simpa using hmark
    obtain ⟨first, later, hfirst, hlater, rfl⟩ := scan_cons_eq_ok_iff.mp h
    have hnext := agrees_readNext hagrees (Ne.symm hne) hfirst
    obtain ⟨⟨kept, hkept, hthins⟩, hcarries⟩ := ih hnext hrest hlater
    cases hmoved : isMoved previous token with
    | true =>
      simp only [sortAfter, hmoved, if_true]
      simp only [isMoved, Bool.and_eq_true, Bool.not_eq_true'] at hmoved
      have hfront : standing = .front := by
        cases standing with
        | front => rfl
        | awaiting option name =>
          have hname : namesOption previous = true := hagrees
          rw [hmoved.2] at hname
          contradiction
        | behind => exact hagrees.elim
      subst hfront
      obtain ⟨hcarried, hstanding, hpositional, hhelp⟩ := readNext_sentinel hmoved.1 hfirst
      rw [hstanding] at hkept
      refine ⟨⟨kept, hkept, hthins.standing, ?_, ?_⟩, ?_⟩
      · simp [Scan.append, hpositional, hthins.positional]
      · simp [Scan.append, has_append, hhelp, hthins.help]
      · exact List.forall_mem_cons.mpr ⟨hcarried, hcarries⟩
    | false =>
      simp only [sortAfter, hmoved, Bool.false_eq_true, if_false]
      refine ⟨⟨first.append kept, scan_cons_eq_ok_iff.mpr ⟨first, kept, hfirst, hkept, rfl⟩,
        hthins.standing, ?_, ?_⟩, hcarries⟩
      · simp [Scan.append, hthins.positional]
      · simp [Scan.append, has_append, hthins.help]

theorem standing_of_agrees {standing : Standing CompileOption} {previous : Option String}
    {tokens : List String} {scanned : Scan CompileOption} (hagrees : Agrees previous standing)
    (hmark : endMark ∉ tokens) (h : scan specs standing tokens = .ok scanned) :
    scanned.standing ≠ .behind := by
  induction tokens generalizing standing previous scanned with
  | nil =>
    obtain rfl := Except.ok.inj h
    rintro rfl
    exact hagrees
  | cons token rest ih =>
    obtain ⟨hne, hrest⟩ : endMark ≠ token ∧ endMark ∉ rest := by simpa using hmark
    obtain ⟨first, later, hfirst, hlater, rfl⟩ := scan_cons_eq_ok_iff.mp h
    have hlast : later.standing ≠ .behind :=
      ih (agrees_readNext hagrees (Ne.symm hne) hfirst) hrest hlater
    exact hlast

/-- Behind what is kept, the end mark and the tokens that are moved are read as they are. -/
theorem parse_marked {front : List String} {scanned : Scan CompileOption} (moved : List String)
    (h : scan specs .front front = .ok scanned) (hstanding : scanned.standing = .front) :
    parse specs true (front ++ endMark :: moved) = .ok (scanned.parsed.append ⟨[], moved⟩) := by
  refine parse_eq_ok_iff.mpr (Or.inr ?_)
  refine scan_append_eq_ok_iff.mpr ⟨scanned, ⟨⟨[], moved⟩, .behind⟩, h, ?_, rfl⟩
  rw [hstanding]
  refine scan_cons_eq_ok_iff.mpr ⟨⟨⟨[], []⟩, .behind⟩, ⟨⟨[], moved⟩, .behind⟩, ?_, scan_behind _ _, rfl⟩
  simp [readNext]

end FactIntake.Arguments
