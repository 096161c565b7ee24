import FactIntake.Proofs.SentinelTokens

/-!
Where sentinels may stand on the command line of the compile command. A line without two hyphens that is
accepted as it stands keeps its meaning unless a token that carries the value of an option ends in a
sentinel: that is moved away and counts as a second source. A sentinel stands for the source wherever a
plain name does if the options have ended before it, or if it is the one token that is moved; two
hyphens elsewhere, or the name of an option before it, keep it from being moved.
-/

namespace FactIntake.Arguments

open Options

theorem readPlain_eq_ok_iff {disk : Disk} {args : List String} {reading : Reading} :
    readPlain disk args = .ok reading ↔
      ∃ parsed, parse specs true args = .ok parsed ∧ check disk parsed = .ok reading :=
  Results.bind_eq_ok_iff

theorem check_of_help {disk : Disk} {parsed : Parsed CompileOption} (h : parsed.has .help) :
    check disk parsed = .ok .help := by
  simp only [check, h, if_true]
  rfl

theorem check_of_no_help {disk : Disk} {parsed : Parsed CompileOption} (h : parsed.has .help = false) :
    check disk parsed = (checkOutput disk (parsed.value? .output)).bind fun _ =>
      (checkSource parsed.positional).map fun source =>
        .compile ⟨source, parsed.value? .compiler, parsed.value? .output, parsed.value? .encoding,
          parsed.has .json⟩ := by
  simp only [check, h, Bool.false_eq_true, if_false]
  rfl

theorem checkSource_eq_ok_iff {tokens : List String} {source : String} :
    checkSource tokens = .ok source ↔ tokens = [source] ∧ hasNul source = false := by
  match tokens with
  | [] => simp [checkSource]
  | [token] =>
    cases hnul : hasNul token with
    | true =>
      simp only [checkSource, hnul, if_true, reduceCtorEq, false_iff, not_and]
      intro heq
      obtain rfl : token = source := by simpa using heq
      simp [hnul]
    | false =>
      simp only [checkSource, hnul, Bool.false_eq_true, if_false, List.isEmpty_nil, if_true,
        Except.ok.injEq, List.cons.injEq, and_true]
      constructor
      · rintro rfl
        exact ⟨rfl, hnul⟩
      · exact fun h => h.1
  | token :: extra :: more =>
    have hrefused : ∀ found, checkSource (token :: extra :: more) ≠ .ok found := by
      intro found
      simp only [checkSource]
      split <;> simp
    simp [hrefused]

/-- What a line asks for, from its options and its one other token. -/
theorem check_eq_compile_iff {disk : Disk} {parsed : Parsed CompileOption} {request : Compile} :
    check disk parsed = .ok (.compile request) ↔
      parsed.has .help = false ∧ checkOutput disk (parsed.value? .output) = .ok () ∧
        parsed.positional = [request.source] ∧ hasNul request.source = false ∧
        ⟨request.source, parsed.value? .compiler, parsed.value? .output, parsed.value? .encoding,
          parsed.has .json⟩ = request := by
  cases hhelp : parsed.has .help with
  | true => simp [check_of_help hhelp]
  | false =>
    rw [check_of_no_help hhelp]
    cases houtput : checkOutput disk (parsed.value? .output) with
    | error fault => simp [Except.bind]
    | ok _ =>
      simp only [Except.bind, Results.map_eq_ok_iff, checkSource_eq_ok_iff, Reading.compile.injEq,
        true_and]
      constructor
      · rintro ⟨source, ⟨hsource, hnul⟩, rfl⟩
        exact ⟨hsource, hnul, rfl⟩
      · rintro ⟨hsource, hnul, hrequest⟩
        exact ⟨request.source, ⟨hsource, hnul⟩, hrequest⟩

/-- Help is given only if it is asked for. -/
theorem has_help_of_check {disk : Disk} {parsed : Parsed CompileOption}
    (h : check disk parsed = .ok .help) : parsed.has .help := by
  by_contra hhelp
  rw [check_of_no_help (by simpa using hhelp)] at h
  cases houtput : checkOutput disk (parsed.value? .output) with
  | error fault => simp [houtput, Except.bind] at h
  | ok _ =>
    simp only [houtput, Except.bind, Results.map_eq_ok_iff] at h
    obtain ⟨_, -, hcompile⟩ := h
    cases hcompile

/-- A line with a second token for its source is refused. -/
theorem check_of_extra {disk : Disk} {parsed : Parsed CompileOption} (hhelp : parsed.has .help = false)
    (h : 2 ≤ parsed.positional.length) : ∃ fault, check disk parsed = .error fault := by
  refine Results.not_ok_iff.mp fun reading hreading => ?_
  cases reading with
  | help =>
    rw [has_help_of_check hreading] at hhelp
    contradiction
  | compile request =>
    obtain ⟨-, -, hsource, -, -⟩ := check_eq_compile_iff.mp hreading
    rw [hsource] at h
    simp at h

/-- No option carries a value that ends in a sentinel, unless the name of another option that takes a
value comes right before it. -/
def CarriesNoSentinel (args : List String) : Prop :=
  ∀ i token, args[i]? = some token → isSentinel token → carriesValue token →
    namesOption (tokenBefore none args i)

theorem carriesNoSentinel_iff {args : List String} :
    CarriesNoSentinel args ↔ ∀ token ∈ (sortAfter none args).moved, carriesValue token = false := by
  constructor
  · intro hcarried token hmem
    obtain ⟨i, htoken, hmoves⟩ := mem_moved_iff.mp hmem
    simp only [isMoved, Bool.and_eq_true, Bool.not_eq_true'] at hmoves
    by_contra hcarries
    have hname := hcarried i token htoken hmoves.1 (by simpa using hcarries)
    rw [hmoves.2] at hname
    contradiction
  · intro hmoved i token htoken hsentinel hcarries
    by_contra hname
    have hmem : token ∈ (sortAfter none args).moved :=
      mem_moved_iff.mpr ⟨i, htoken, by simp [isMoved, hsentinel, hname]⟩
    rw [hmoved token hmem] at hcarries
    contradiction

theorem none_carries_iff {tokens : List String} (h : ∀ token ∈ tokens, carriesValue token) :
    (∀ token ∈ tokens, carriesValue token = false) ↔ tokens = [] := by
  constructor
  · refine fun hnone => List.eq_nil_iff_forall_not_mem.mpr fun token hmem => ?_
    have hcarries := h token hmem
    rw [hnone token hmem] at hcarries
    contradiction
  · rintro rfl
    simp

theorem read_of_marked {disk : Disk} {args : List String} (h : endMark ∈ args) :
    read disk args = readPlain disk args := by
  have hmarked : args.contains endMark := by simpa using h
  simp only [read, prepared, hmarked, if_true]

theorem read_of_unmarked {disk : Disk} {args : List String} (h : endMark ∉ args) :
    read disk args = readPlain disk (if (sortAfter none args).moved = [] then args
      else (sortAfter none args).kept ++ endMark :: (sortAfter none args).moved) := by
  have hunmarked : args.contains endMark = false := by simpa using h
  simp only [read, prepared, hunmarked, Bool.false_eq_true, if_false, shift_eq]

/-- A line without two hyphens that is accepted as it stands keeps its meaning if no option carries a
value that ends in a sentinel, and if it only asks for help; otherwise it is refused. -/
theorem read_of_readPlain {disk : Disk} {args : List String} {reading : Reading}
    (hmark : endMark ∉ args) (h : readPlain disk args = .ok reading) :
    (read disk args = .ok reading ↔ reading = .help ∨ CarriesNoSentinel args) ∧
      (read disk args ≠ .ok reading → ∃ fault, read disk args = .error fault) := by
  obtain ⟨parsed, hparsed, hcheck⟩ := readPlain_eq_ok_iff.mp h
  have hscan : scan specs .front args = .ok ⟨parsed, .front⟩ := by
    refine (parse_eq_ok_iff.mp hparsed).resolve_right fun hbehind => ?_
    exact standing_of_agrees (agrees_front none) hmark hbehind rfl
  obtain ⟨⟨kept, hkept, hthins⟩, hcarries⟩ := scan_kept (agrees_front none) hmark hscan
  rw [carriesNoSentinel_iff, none_carries_iff hcarries, read_of_unmarked hmark]
  by_cases hnone : (sortAfter none args).moved = []
  · simp [hnone, h]
  · rw [if_neg hnone, or_iff_left hnone]
    have hread := parse_marked (sortAfter none args).moved hkept hthins.standing
    generalize hall : kept.parsed.append ⟨[], (sortAfter none args).moved⟩ = all at hread
    have hhelp : all.has .help = parsed.has .help := by
      rw [← hall, has_append, hthins.help]
      simp [Parsed.has]
    cases reading with
    | help =>
      have hcheck' : check disk all = .ok .help := check_of_help (hhelp.trans (has_help_of_check hcheck))
      simp [readPlain_eq_ok_iff.mpr ⟨all, hread, hcheck'⟩]
    | compile request =>
      obtain ⟨hasked, -, hsource, -⟩ := check_eq_compile_iff.mp hcheck
      have hextra : 2 ≤ all.positional.length := by
        have hpositional : all.positional = request.source :: (sortAfter none args).moved := by
          rw [← hall, Parsed.append_positional, hthins.positional, hsource]
          rfl
        have hlength := List.length_pos_iff.mpr hnone
        rw [hpositional, List.length_cons]
        omega
      obtain ⟨fault, hfault⟩ : ∃ fault, check disk all = .error fault :=
        check_of_extra (hhelp.trans hasked) hextra
      have hrefused : readPlain disk ((sortAfter none args).kept ++
          endMark :: (sortAfter none args).moved) = .error fault := by
        simp only [readPlain, hread, bind, Except.bind, hfault]
      simp [hrefused]

/-- On an empty disk the output is free. -/
theorem checkOutput_absent : checkOutput ⟨[], []⟩ (some "out/-.cql") = .ok () := by
  have hfind : (⟨[], []⟩ : Disk).find true "out/-.cql" = .error .missing := by
    have hsteps : Disk.steps "out/-.cql" = ["out", "-.cql"] := by decide
    rw [Disk.find, if_neg (by decide), if_neg (by decide), hsteps, Disk.walk]
    rfl
  have hfree : (⟨[], []⟩ : Disk).isDirectory "out/-.cql" = false := by
    simp only [Disk.isDirectory, hfind]
  simp only [checkOutput, hfree]
  rfl

/-- A value that ends in a sentinel is left where it is if the name of an option comes right before it. -/
theorem carried_after_name_kept :
    read ⟨[], []⟩ ["-o", "--compiler", "-oout/-.cql", "m.cql"] =
      .ok (.compile ⟨"m.cql", none, some "out/-.cql", none, false⟩) := by
  have hplain : readPlain ⟨[], []⟩ ["-o", "--compiler", "-oout/-.cql", "m.cql"] =
      .ok (.compile ⟨"m.cql", none, some "out/-.cql", none, false⟩) :=
    readPlain_eq_ok_iff.mpr ⟨_, rfl, check_eq_compile_iff.mpr
      ⟨rfl, checkOutput_absent, rfl, rfl, rfl⟩⟩
  have hcarried : CarriesNoSentinel ["-o", "--compiler", "-oout/-.cql", "m.cql"] :=
    carriesNoSentinel_iff.mpr (by decide)
  exact (read_of_readPlain (by decide) hplain).1.mpr (Or.inr hcarried)

/-- The file that the model is to be written to is taken for a second source. -/
theorem carried_sentinel_refused :
    readPlain ⟨[], []⟩ ["m.cql", "-oout/-.cql"] =
      .ok (.compile ⟨"m.cql", none, some "out/-.cql", none, false⟩) ∧
    endMark ∉ ["m.cql", "-oout/-.cql"] ∧
    read ⟨[], []⟩ ["m.cql", "-oout/-.cql"] = .error (unexpected ["-oout/-.cql"]) := by
  refine ⟨readPlain_eq_ok_iff.mpr ⟨_, rfl, check_eq_compile_iff.mpr ⟨rfl, checkOutput_absent, rfl, rfl, rfl⟩⟩,
    by decide, rfl⟩

/-- Whether two hyphens that are no value of an option end the options; the first token may be the value
of one. -/
def endsOptions (isValue : Bool) : List String → Bool
  | [] => false
  | token :: rest =>
    if isValue then endsOptions false rest
    else token == endMark || endsOptions (valueOptions.contains token) rest

theorem mem_of_endsOptions {isValue : Bool} {tokens : List String} (h : endsOptions isValue tokens) :
    endMark ∈ tokens := by
  induction tokens generalizing isValue with
  | nil => simp [endsOptions] at h
  | cons token rest ih =>
    cases isValue with
    | true => exact List.mem_cons_of_mem _ (ih (by simpa [endsOptions] using h))
    | false =>
      simp only [endsOptions, Bool.false_eq_true, if_false, Bool.or_eq_true, beq_iff_eq] at h
      rcases h with rfl | hrest
      · exact List.mem_cons_self ..
      · exact List.mem_cons_of_mem _ (ih hrest)

/-- Whether the next token is the value of an option. -/
def isValue : Standing CompileOption → Bool
  | .awaiting _ _ => true
  | _ => false

/-- The names of options that take a value are the tokens that leave one awaiting its value. -/
theorem standing_of_readNext {token : String} {first : Scan CompileOption} (hmark : token ≠ endMark)
    (h : readNext specs .front token = .ok first) :
    first.standing ≠ .behind ∧ isValue first.standing = valueOptions.contains token := by
  have hcarried : ∀ name ∈ valueOptions, carriesValue name = false := by decide
  have hlooks : ∀ name ∈ valueOptions, looksLikeOption name := by decide
  rcases readNext_front hmark h with ⟨said, hoption, hmeaning, rfl⟩ | ⟨hoption, rfl⟩
  · cases hmeaning with
    | carried hcarries _ =>
      refine ⟨by simp [Said.standing], ?_⟩
      have hname : token ∉ valueOptions := fun hmem => by
        rw [hcarried token hmem] at hcarries
        contradiction
      simpa [isValue, Said.standing] using hname
    | name hname => exact ⟨by simp [Said.standing], by simpa [isValue, Said.standing] using hname⟩
    | flag hflag =>
      refine ⟨by simp [Said.standing], ?_⟩
      have hname : token ∉ valueOptions := by rcases hflag with rfl | rfl <;> decide
      simpa [isValue, Said.standing] using hname
  · refine ⟨by simp, ?_⟩
    have hname : token ∉ valueOptions := fun hmem => hoption (hlooks token hmem)
    simpa [isValue] using hname

theorem standing_eq_behind_iff {standing : Standing CompileOption} {tokens : List String}
    {scanned : Scan CompileOption} (hstanding : standing ≠ .behind)
    (h : scan specs standing tokens = .ok scanned) :
    scanned.standing = .behind ↔ endsOptions (isValue standing) tokens := by
  induction tokens generalizing standing scanned with
  | nil =>
    obtain rfl := Except.ok.inj h
    simpa [endsOptions] using hstanding
  | cons token rest ih =>
    obtain ⟨first, later, hfirst, hlater, rfl⟩ := scan_cons_eq_ok_iff.mp h
    cases standing with
    | behind => exact absurd rfl hstanding
    | awaiting option name =>
      obtain rfl := Except.ok.inj hfirst
      simpa [Scan.append, endsOptions, isValue] using ih (by simp) hlater
    | front =>
      by_cases hmark : token = endMark
      · subst hmark
        obtain rfl : first = ⟨⟨[], []⟩, .behind⟩ := by simpa [readNext, eq_comm] using hfirst
        obtain rfl := Except.ok.inj ((scan_behind specs rest).symm.trans hlater)
        simp [Scan.append, endsOptions, isValue]
      · obtain ⟨hfront, hvalue⟩ := standing_of_readNext hmark hfirst
        have hrest := ih hfront hlater
        rw [hvalue] at hrest
        simpa [Scan.append, endsOptions, isValue, hmark] using hrest

theorem mem_of_positional {standing : Standing CompileOption} {tokens : List String}
    {scanned : Scan CompileOption} (h : scan specs standing tokens = .ok scanned) :
    ∀ token ∈ scanned.parsed.positional, token ∈ tokens := by
  induction tokens generalizing standing scanned with
  | nil =>
    obtain rfl := Except.ok.inj h
    simp
  | cons token rest ih =>
    obtain ⟨first, later, hfirst, hlater, rfl⟩ := scan_cons_eq_ok_iff.mp h
    have hone : ∀ found ∈ first.parsed.positional, found = token := by
      cases standing with
      | behind =>
        obtain rfl := Except.ok.inj hfirst
        simp
      | awaiting option name =>
        obtain rfl := Except.ok.inj hfirst
        simp
      | front =>
        by_cases hmark : token = endMark
        · obtain rfl : first = ⟨⟨[], []⟩, .behind⟩ := by simpa [readNext, hmark, eq_comm] using hfirst
          simp
        · rcases readNext_front hmark hfirst with ⟨said, -, -, rfl⟩ | ⟨-, rfl⟩ <;> simp
    intro found hfound
    rcases List.mem_append.mp hfound with hfound | hfound
    · rw [hone found hfound]
      exact List.mem_cons_self ..
    · exact List.mem_cons_of_mem _ (ih hlater found hfound)

/-- A hyphen with an extension, and nothing else. -/
def IsBareSentinel (token : String) : Prop :=
  ∃ extension ∈ Settings.sourceExtensions, token = "-." ++ extension

theorem isSentinel_of_bare {token : String} (h : IsBareSentinel token) :
    isSentinel token ∧ carriesValue token = false ∧ hasNul token = false := by
  have hall : ∀ extension ∈ Settings.sourceExtensions, isSentinel ("-." ++ extension) ∧
      carriesValue ("-." ++ extension) = false ∧ hasNul ("-." ++ extension) = false := by decide
  obtain ⟨extension, hextension, rfl⟩ := h
  exact hall extension hextension

/-- A sentinel in front of a line is no option. -/
theorem not_parse_bare {sentinel : String} (hsentinel : IsBareSentinel sentinel) {before : List String}
    {first : Scan CompileOption} (hbefore : scan specs .front before = .ok first)
    (hfront : first.standing = .front) (after : List String) (parsed : Parsed CompileOption) :
    parse specs true (before ++ sentinel :: after) ≠ .ok parsed := by
  obtain ⟨hmoves, hcarries, -⟩ := isSentinel_of_bare hsentinel
  intro hparse
  obtain ⟨scanned, hscan⟩ : ∃ scanned, scan specs .front (before ++ sentinel :: after) = .ok scanned :=
    (parse_eq_ok_iff.mp hparse).elim (fun h => ⟨_, h⟩) fun h => ⟨_, h⟩
  obtain ⟨first', later, hfirst', hlater, -⟩ := scan_append_eq_ok_iff.mp hscan
  obtain rfl := Except.ok.inj (hbefore.symm.trans hfirst')
  rw [hfront] at hlater
  obtain ⟨one, _, hone, -⟩ := scan_cons_eq_ok_iff.mp hlater
  rw [(readNext_sentinel hmoves hone).1] at hcarries
  contradiction

/-- What is read before and after the one token that a line has for its source: before it the options
have ended, or it stands in front, and neither part has another token for the source. -/
structure Parts (before after : List String) (parsed : Parsed CompileOption)
    (first later : Scan CompileOption) : Prop where
  before_eq : scan specs .front before = .ok first
  after_eq : scan specs first.standing after = .ok later
  standing : first.standing = .front ∨ first.standing = .behind
  settled : later.standing = .front ∨ later.standing = .behind
  given : parsed.given = first.parsed.given ++ later.parsed.given
  before_nil : first.parsed.positional = []
  after_nil : later.parsed.positional = []

/-- A plain name is the value of an option, or it stands for itself. -/
theorem readNext_name {name : String} (hname : name.toList.head? ≠ some '-')
    {standing : Standing CompileOption} {one : Scan CompileOption}
    (h : readNext specs standing name = .ok one) :
    (one = ⟨⟨[], [name]⟩, standing⟩ ∧ (standing = .front ∨ standing = .behind)) ∨
      one.parsed.positional = [] := by
  cases standing with
  | front =>
    have hplain : ¬ looksLikeOption name := by simp [looksLikeOption, hname]
    have hmark : ¬ name == endMark := fun hmark => hname (by simp [beq_iff_eq.mp hmark, endMark])
    rw [readNext_operand hmark hplain] at h
    exact Or.inl ⟨(Except.ok.inj h).symm, Or.inl rfl⟩
  | behind => exact Or.inl ⟨(Except.ok.inj h).symm, Or.inr rfl⟩
  | awaiting option wanted =>
    obtain rfl := Except.ok.inj h
    exact Or.inr rfl

theorem parts_of_parse {before after : List String} {name : String} {parsed : Parsed CompileOption}
    (hname : name.toList.head? ≠ some '-') (hfresh : name ∉ before ++ after)
    (h : parse specs true (before ++ name :: after) = .ok parsed) (hsource : parsed.positional = [name]) :
    ∃ first later, Parts before after parsed first later := by
  obtain ⟨standing, hscan, hsettled⟩ : ∃ standing,
      scan specs .front (before ++ name :: after) = .ok ⟨parsed, standing⟩ ∧
        (standing = .front ∨ standing = .behind) :=
    (parse_eq_ok_iff.mp h).elim (fun h => ⟨_, h, Or.inl rfl⟩) fun h => ⟨_, h, Or.inr rfl⟩
  obtain ⟨first, _, hfirst, hrest, hall⟩ := scan_append_eq_ok_iff.mp hscan
  obtain ⟨one, later, hone, hlater, rfl⟩ := scan_cons_eq_ok_iff.mp hrest
  obtain ⟨hparsed, hstanding⟩ : first.parsed.append (one.parsed.append later.parsed) = parsed ∧
      later.standing = standing := by
    simpa [Scan.append] using hall
  subst hparsed hstanding
  simp only [Parsed.append_positional] at hsource
  rcases readNext_name hname hone with ⟨rfl, hstanding⟩ | hvalue
  · obtain ⟨hbeforeNil, hafterNil⟩ : first.parsed.positional = [] ∧ later.parsed.positional = [] := by
      have hlength := congrArg List.length hsource
      simp only [List.length_append, List.length_cons, List.length_nil] at hlength
      exact ⟨List.length_eq_zero_iff.mp (by omega), List.length_eq_zero_iff.mp (by omega)⟩
    exact ⟨first, later, hfirst, hlater, hstanding, hsettled, by simp, hbeforeNil, hafterNil⟩
  · -- The name is a value, so the source is another token of that name.
    have hmem : name ∈ first.parsed.positional ++ (one.parsed.positional ++ later.parsed.positional) := by
      rw [hsource]
      exact List.mem_singleton_self name
    rw [hvalue, List.nil_append] at hmem
    refine absurd (List.mem_append.mpr ?_) hfresh
    exact (List.mem_append.mp hmem).imp (mem_of_positional hfirst name) (mem_of_positional hlater name)

/-- Behind the end mark a sentinel is a source as a plain name is. -/
theorem parse_behind {before after : List String} {parsed : Parsed CompileOption}
    {first later : Scan CompileOption} (hparts : Parts before after parsed first later)
    (hbehind : first.standing = .behind) (sentinel : String) :
    parse specs true (before ++ sentinel :: after) = .ok ⟨parsed.given, [sentinel]⟩ := by
  have hlater := hparts.after_eq
  rw [hbehind, scan_behind] at hlater
  obtain rfl := Except.ok.inj hlater
  obtain rfl : after = [] := hparts.after_nil
  refine parse_eq_ok_iff.mpr (Or.inr ?_)
  refine scan_append_eq_ok_iff.mpr ⟨first, ⟨⟨[], [sentinel]⟩, .behind⟩, hparts.before_eq, ?_, ?_⟩
  · rw [hbehind, scan_behind]
  · simp [Scan.append, Parsed.append, hparts.before_nil, hparts.given]

theorem check_with_source {disk : Disk} {parsed : Parsed CompileOption} {request : Compile}
    {source : String} (hnul : hasNul source = false)
    (h : check disk parsed = .ok (.compile request)) :
    check disk ⟨parsed.given, [source]⟩ = .ok (.compile { request with source := source }) := by
  obtain ⟨hhelp, houtput, -, -, hrequest⟩ := check_eq_compile_iff.mp h
  refine check_eq_compile_iff.mpr ⟨hhelp, houtput, rfl, hnul, ?_⟩
  rw [← hrequest]
  rfl

/-- In front of a line without two hyphens a sentinel that is moved stands behind all that is kept, next
to the options that carry a sentinel in their value. -/
theorem parse_moved {before after : List String} {parsed : Parsed CompileOption}
    {first later : Scan CompileOption} (hparts : Parts before after parsed first later)
    (hfront : first.standing = .front) (hmark : endMark ∉ before ++ after) (sentinel : String) :
    (∃ all, parse specs true ((sortAfter none before).kept ++ (sortAfter (some sentinel) after).kept ++
          endMark :: ((sortAfter none before).moved ++
            sentinel :: (sortAfter (some sentinel) after).moved)) = .ok all ∧
        all.positional = (sortAfter none before).moved ++
          sentinel :: (sortAfter (some sentinel) after).moved ∧
        all.has .help = parsed.has .help ∧
        ((sortAfter none before).moved = [] → (sortAfter (some sentinel) after).moved = [] →
          all.given = parsed.given)) ∧
      ∀ token ∈ (sortAfter none before).moved ++ (sortAfter (some sentinel) after).moved,
        carriesValue token := by
  obtain ⟨hbeforeMark, hafterMark⟩ : endMark ∉ before ∧ endMark ∉ after := by simpa using hmark
  have hlater := hparts.after_eq
  rw [hfront] at hlater
  obtain ⟨⟨keptBefore, hkeptBefore, hthinsBefore⟩, hcarriesBefore⟩ :=
    scan_kept (agrees_front none) hbeforeMark hparts.before_eq
  obtain ⟨⟨keptAfter, hkeptAfter, hthinsAfter⟩, hcarriesAfter⟩ :=
    scan_kept (agrees_front (some sentinel)) hafterMark hlater
  have hkept : scan specs .front
      ((sortAfter none before).kept ++ (sortAfter (some sentinel) after).kept) =
        .ok (keptBefore.append keptAfter) := by
    refine scan_append_eq_ok_iff.mpr ⟨keptBefore, keptAfter, hkeptBefore, ?_, rfl⟩
    rw [hthinsBefore.standing, hfront]
    exact hkeptAfter
  have hstanding : (keptBefore.append keptAfter).standing = .front := by
    refine hthinsAfter.standing.trans (hparts.settled.resolve_right ?_)
    exact standing_of_agrees (agrees_front (some sentinel)) hafterMark hlater
  refine ⟨⟨_, parse_marked _ hkept hstanding, ?_, ?_, fun hbeforeNil hafterNil => ?_⟩, ?_⟩
  · simp [Scan.append, hthinsBefore.positional, hthinsAfter.positional, hparts.before_nil,
      hparts.after_nil]
  · have hhelp : parsed.has .help = (first.parsed.append later.parsed).has .help := by
      simp [Parsed.has, hparts.given]
    have hmoved (moved : List String) : Parsed.has (⟨[], moved⟩ : Parsed CompileOption) .help = false := rfl
    simp only [hhelp, Scan.append, has_append, hmoved, hthinsBefore.help, hthinsAfter.help,
      Bool.or_false]
  · rw [kept_of_moved_eq_nil hbeforeNil] at hkeptBefore
    rw [kept_of_moved_eq_nil hafterNil] at hkeptAfter
    obtain rfl := Except.ok.inj (hparts.before_eq.symm.trans hkeptBefore)
    obtain rfl := Except.ok.inj (hlater.symm.trans hkeptAfter)
    simp [Scan.append, hparts.given]
  · intro token htoken
    rcases List.mem_append.mp htoken with htoken | htoken
    · exact hcarriesBefore token htoken
    · exact hcarriesAfter token htoken

theorem readPlain_refused {disk : Disk} {args : List String}
    (h : ∀ parsed, parse specs true args ≠ .ok parsed) : ∃ fault, readPlain disk args = .error fault := by
  refine Results.not_ok_iff.mp fun reading hreading => ?_
  obtain ⟨parsed, hparsed, -⟩ := readPlain_eq_ok_iff.mp hreading
  exact h parsed hparsed

section Places

variable {disk : Disk} {before after : List String} {sentinel : String} {request : Compile}
  {parsed : Parsed CompileOption} {first later : Scan CompileOption}

theorem read_of_behind (hsentinel : IsBareSentinel sentinel) (hparts : Parts before after parsed first later)
    (hcheck : check disk parsed = .ok (.compile request)) (hbehind : first.standing = .behind)
    (hmark : endMark ∈ before ++ sentinel :: after) :
    read disk (before ++ sentinel :: after) = .ok (.compile { request with source := sentinel }) := by
  obtain ⟨-, -, hnul⟩ := isSentinel_of_bare hsentinel
  rw [read_of_marked hmark]
  exact readPlain_eq_ok_iff.mpr ⟨_, parse_behind hparts hbehind sentinel, check_with_source hnul hcheck⟩

/-- Two hyphens anywhere keep a sentinel in front from being moved. -/
theorem read_of_front_marked (hsentinel : IsBareSentinel sentinel)
    (hparts : Parts before after parsed first later) (hfront : first.standing = .front)
    (hmark : endMark ∈ before ++ sentinel :: after) :
    ∃ fault, read disk (before ++ sentinel :: after) = .error fault := by
  rw [read_of_marked hmark]
  exact readPlain_refused (not_parse_bare hsentinel hparts.before_eq hfront after)

/-- A sentinel after the name of an option is not moved, though that name may be a value itself. -/
theorem read_of_front_named (hsentinel : IsBareSentinel sentinel)
    (hparts : Parts before after parsed first later) (hfront : first.standing = .front)
    (hmark : endMark ∉ before ++ sentinel :: after) (hname : namesOption before.getLast?) :
    ∃ fault, read disk (before ++ sentinel :: after) = .error fault := by
  have hbeforeMark : endMark ∉ before := fun hmem => hmark (List.mem_append_left _ hmem)
  rw [read_of_unmarked hmark]
  refine readPlain_refused ?_
  split
  · exact not_parse_bare hsentinel hparts.before_eq hfront after
  · obtain ⟨⟨kept, hkept, hthins⟩, -⟩ := scan_kept (agrees_front none) hbeforeMark hparts.before_eq
    have hstays : isMoved before.getLast? sentinel = false := by simp [isMoved, hname]
    rw [sortAfter_append, tokenBefore_length, sortAfter, hstays]
    simp only [Bool.false_eq_true, if_false, List.append_assoc, List.cons_append]
    exact not_parse_bare hsentinel hkept (hthins.standing.trans hfront) _

/-- A sentinel that is moved is the source if it is the only token that is. -/
theorem read_of_front_moved (hsentinel : IsBareSentinel sentinel)
    (hparts : Parts before after parsed first later)
    (hcheck : check disk parsed = .ok (.compile request)) (hfront : first.standing = .front)
    (hmark : endMark ∉ before ++ sentinel :: after) (hname : namesOption before.getLast? = false) :
    (CarriesNoSentinel (before ++ sentinel :: after) ∧
        read disk (before ++ sentinel :: after) = .ok (.compile { request with source := sentinel })) ∨
      (¬ CarriesNoSentinel (before ++ sentinel :: after) ∧
        ∃ fault, read disk (before ++ sentinel :: after) = .error fault) := by
  obtain ⟨hmoves, hcarries, hnul⟩ := isSentinel_of_bare hsentinel
  have hmarkParts : endMark ∉ before ++ after := fun hmem => hmark <| by
    simpa using (List.mem_append.mp hmem).imp_right Or.inr
  obtain ⟨⟨all, hall, hpositional, hhelp, hgiven⟩, hmoved⟩ :=
    parse_moved hparts hfront hmarkParts sentinel
  have hleaves : isMoved before.getLast? sentinel := by simp [isMoved, hmoves, hname]
  have hsorted : sortAfter none (before ++ sentinel :: after) =
      ⟨(sortAfter none before).kept ++ (sortAfter (some sentinel) after).kept,
        (sortAfter none before).moved ++ sentinel :: (sortAfter (some sentinel) after).moved⟩ := by
    rw [sortAfter_append, tokenBefore_length, sortAfter, hleaves]
    rfl
  have hnone : CarriesNoSentinel (before ++ sentinel :: after) ↔
      (sortAfter none before).moved ++ (sortAfter (some sentinel) after).moved = [] := by
    rw [carriesNoSentinel_iff, hsorted, ← none_carries_iff hmoved]
    simp only [List.forall_mem_append, List.forall_mem_cons, hcarries, true_and]
  have hread : read disk (before ++ sentinel :: after) = (check disk all) := by
    rw [read_of_unmarked hmark, hsorted]
    simp only [List.append_eq_nil_iff, reduceCtorEq, and_false, if_false, readPlain, hall, bind,
      Except.bind]
  rw [hnone, hread]
  by_cases hempty : (sortAfter none before).moved ++ (sortAfter (some sentinel) after).moved = []
  · obtain ⟨hbeforeNil, hafterNil⟩ := List.append_eq_nil_iff.mp hempty
    have hsame : all = ⟨parsed.given, [sentinel]⟩ := by
      rw [hbeforeNil, hafterNil] at hpositional
      rw [← hgiven hbeforeNil hafterNil, ← List.nil_append [sentinel], ← hpositional]
    refine Or.inl ⟨hempty, ?_⟩
    rw [hsame]
    exact check_with_source hnul hcheck
  · refine Or.inr ⟨hempty, check_of_extra (hhelp.trans (check_eq_compile_iff.mp hcheck).1) ?_⟩
    have hlength := List.length_pos_iff.mpr hempty
    rw [List.length_append] at hlength
    rw [hpositional, List.length_append, List.length_cons]
    omega

end Places

/-- A sentinel takes the place of a plain name if two hyphens that are no value have ended the options
before it, or if the line has no two hyphens, the token before it is not the name of an option that takes
a value, and no option carries a value that ends in a sentinel. Otherwise the line is refused. -/
theorem read_sentinel {disk : Disk} {before after : List String} {sentinel name : String}
    {request : Compile} (hsentinel : IsBareSentinel sentinel) (hname : name.toList.head? ≠ some '-')
    (hfresh : name ∉ before ++ after)
    (h : readPlain disk (before ++ name :: after) = .ok (.compile request))
    (hsource : request.source = name) :
    (read disk (before ++ sentinel :: after) = .ok (.compile { request with source := sentinel }) ↔
      endsOptions false before ∨
        endMark ∉ before ++ after ∧ namesOption before.getLast? = false ∧
          CarriesNoSentinel (before ++ sentinel :: after)) ∧
    (read disk (before ++ sentinel :: after) ≠ .ok (.compile { request with source := sentinel }) →
      ∃ fault, read disk (before ++ sentinel :: after) = .error fault) := by
  obtain ⟨hmoves, -, -⟩ := isSentinel_of_bare hsentinel
  obtain ⟨parsed, hparsed, hcheck⟩ := readPlain_eq_ok_iff.mp h
  obtain ⟨-, -, hpositional, -⟩ := check_eq_compile_iff.mp hcheck
  rw [hsource] at hpositional
  obtain ⟨first, later, hparts⟩ := parts_of_parse hname hfresh hparsed hpositional
  have hends : first.standing = .behind ↔ endsOptions false before :=
    standing_eq_behind_iff (by simp) hparts.before_eq
  have hmarked : endMark ∈ before ++ sentinel :: after ↔ endMark ∈ before ++ after := by
    have hne : endMark ≠ sentinel := by
      rintro rfl
      exact absurd hmoves (by decide)
    simp [hne]
  rw [← hends, ← hmarked]
  rcases hparts.standing with hfront | hbehind
  · rw [hfront]
    by_cases hmark : endMark ∈ before ++ sentinel :: after
    · obtain ⟨fault, hfault⟩ : ∃ fault, read disk (before ++ sentinel :: after) = .error fault :=
        read_of_front_marked hsentinel hparts hfront hmark
      simp [hfault, hmark]
    · cases hnamed : namesOption before.getLast? with
      | true =>
        obtain ⟨fault, hfault⟩ : ∃ fault, read disk (before ++ sentinel :: after) = .error fault :=
          read_of_front_named hsentinel hparts hfront hmark hnamed
        simp [hfault]
      | false =>
        rcases read_of_front_moved hsentinel hparts hcheck hfront hmark hnamed with
          ⟨hnone, haccepted⟩ | ⟨hsome, fault, hfault⟩
        · simp [hmark, hnone, haccepted]
        · simp [hfault, hsome]
  · have hmark := List.mem_append_left (sentinel :: after) (mem_of_endsOptions (hends.mp hbehind))
    simp [read_of_behind hsentinel hparts hcheck hbehind hmark, hbehind]

/-- Between options a sentinel is read as a plain name is. -/
theorem sentinel_between_options :
    read ⟨[], []⟩ ["-c", "fx:E", "-.cql", "--json"] =
      .ok (.compile ⟨"-.cql", some "fx:E", none, none, true⟩) :=
  have hplain : readPlain ⟨[], []⟩ (["-c", "fx:E"] ++ "m" :: ["--json"]) =
      .ok (.compile ⟨"m", some "fx:E", none, none, true⟩) := rfl
  have hcarried : CarriesNoSentinel (["-c", "fx:E"] ++ "-.cql" :: ["--json"]) :=
    carriesNoSentinel_iff.mpr (by decide)
  (read_sentinel ⟨"cql", by decide, rfl⟩ (by decide) (by decide) hplain rfl).1.mpr
    (Or.inr ⟨by decide, by decide, hcarried⟩)

/-- Two hyphens after a sentinel leave it where a plain name is the source. -/
theorem sentinel_before_end_mark_refused :
    readPlain ⟨[], []⟩ ["m", "--"] = .ok (.compile ⟨"m", none, none, none, false⟩) ∧
    read ⟨[], []⟩ ["-.cql", "--"] = .error (noSuchOption "-.") := ⟨rfl, rfl⟩

end FactIntake.Arguments
