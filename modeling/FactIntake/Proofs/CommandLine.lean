import FactIntake.Command.Options
import FactIntake.Proofs.Results

/-!
A command line read token by token. Where a token stands decides what it is: the value of an option
that waits for one, whatever it looks like; an option or another token in front; another token behind
the end mark. What is read of two parts of a line is what is read of the one, and then of the other
from where the first part ends. Reading the tokens this way comes to the same as parsing
the line.
-/

namespace FactIntake.Options

variable {ι : Type} {specs : List (Spec ι)}

/-- Where a token stands. -/
inductive Standing (ι : Type)
  | front
  /-- The token is the value of an option. -/
  | awaiting (option : ι) (name : String)
  | behind

/-- What tokens say, and where the next token stands. -/
structure Scan (ι : Type) where
  parsed : Parsed ι
  standing : Standing ι

def Parsed.append (first later : Parsed ι) : Parsed ι :=
  ⟨first.given ++ later.given, first.positional ++ later.positional⟩

def Scan.append (first later : Scan ι) : Scan ι := ⟨first.parsed.append later.parsed, later.standing⟩

/-- An option that lacks its value awaits it. -/
def Said.standing (said : Said ι) : Standing ι :=
  match said.wanting with
  | none => .front
  | some (option, name) => .awaiting option name

def readNext (specs : List (Spec ι)) : Standing ι → String → Except Fault (Scan ι)
  | .behind, token => .ok ⟨⟨[], [token]⟩, .behind⟩
  | .awaiting option _, token => .ok ⟨⟨[(option, some token)], []⟩, .front⟩
  | .front, token =>
    if token == endMark then .ok ⟨⟨[], []⟩, .behind⟩
    else if looksLikeOption token then
      (readToken specs token).map fun said => ⟨⟨said.given, []⟩, said.standing⟩
    else .ok ⟨⟨[], [token]⟩, .front⟩

/-- Reads tokens, the first of which stands there. -/
def scan (specs : List (Spec ι)) (standing : Standing ι) : List String → Except Fault (Scan ι)
  | [] => .ok ⟨⟨[], []⟩, standing⟩
  | token :: rest => do
    let first ← readNext specs standing token
    let later ← scan specs first.standing rest
    return first.append later

/-- No option may wait for its value where a line ends. -/
def Scan.finish : Scan ι → Except Fault (Parsed ι)
  | ⟨_, .awaiting _ name⟩ => .error (needsValue name)
  | ⟨parsed, .front⟩ | ⟨parsed, .behind⟩ => .ok parsed

@[simp] theorem Parsed.append_given (first later : Parsed ι) :
    (first.append later).given = first.given ++ later.given := rfl

@[simp] theorem Parsed.append_positional (first later : Parsed ι) :
    (first.append later).positional = first.positional ++ later.positional := rfl

@[simp] theorem Parsed.nil_append (parsed : Parsed ι) : Parsed.append ⟨[], []⟩ parsed = parsed := rfl

@[simp] theorem Parsed.append_nil (parsed : Parsed ι) : parsed.append ⟨[], []⟩ = parsed := by
  simp [Parsed.append]

theorem Parsed.append_assoc (first second third : Parsed ι) :
    (first.append second).append third = first.append (second.append third) := by
  simp [Parsed.append]

theorem scan_cons (specs : List (Spec ι)) (standing : Standing ι) (token : String) (rest : List String) :
    scan specs standing (token :: rest) = (readNext specs standing token >>= fun first =>
      (scan specs first.standing rest).map first.append) := by
  simp only [scan, bind, Except.bind, pure, Except.pure, Except.map]

/-- Behind the end mark every token stands for itself. -/
theorem scan_behind (specs : List (Spec ι)) (tokens : List String) :
    scan specs .behind tokens = .ok ⟨⟨[], tokens⟩, .behind⟩ := by
  induction tokens with
  | nil => rfl
  | cons token rest ih =>
    rw [scan_cons]
    simp only [readNext, bind, Except.bind, ih, Except.map, Scan.append, Parsed.append, List.nil_append,
      List.singleton_append]

/-- What the first token says stays in front of what is read later. -/
theorem finish_cons {standing : Standing ι} {token : String} {first : Scan ι} (rest : List String)
    (h : readNext specs standing token = .ok first) :
    scan specs standing (token :: rest) >>= Scan.finish =
      (scan specs first.standing rest >>= Scan.finish).map first.parsed.append := by
  rw [scan_cons, h]
  obtain ⟨parsed, next⟩ := first
  show ((scan specs next rest).map (Scan.append ⟨parsed, next⟩) >>= Scan.finish) =
    (scan specs next rest >>= Scan.finish).map parsed.append
  match scan specs next rest with
  | .error fault => rfl
  | .ok ⟨later, .front⟩ | .ok ⟨later, .behind⟩ | .ok ⟨later, .awaiting option name⟩ => rfl

theorem readNext_option {token : String} (hmark : ¬ token == endMark) (hoption : looksLikeOption token) :
    readNext specs .front token =
      (readToken specs token).map fun said => ⟨⟨said.given, []⟩, said.standing⟩ := by
  simp only [readNext, hmark, hoption, Bool.false_eq_true, if_false, if_true]

theorem readNext_operand {token : String} (hmark : ¬ token == endMark)
    (hoption : ¬ looksLikeOption token) :
    readNext specs .front token = .ok ⟨⟨[], [token]⟩, .front⟩ := by
  simp only [readNext, hmark, hoption, Bool.false_eq_true, if_false]

/-- Reading token by token is parsing. -/
theorem parse_eq_scan (specs : List (Spec ι)) (tokens : List String) :
    parse specs true tokens = scan specs .front tokens >>= Scan.finish := by
  fun_induction parse specs true tokens with
  | case1 => rfl
  | case2 token rest hmark =>
    have hfirst : readNext specs .front token = .ok ⟨⟨[], []⟩, .behind⟩ := by
      simp only [readNext, hmark, if_true]
    rw [finish_cons rest hfirst, scan_behind]
    rfl
  | case3 token rest hmark hoption fault hread =>
    rw [scan_cons, readNext_option hmark hoption, hread]
    rfl
  | case4 token rest hmark hoption given hread ih =>
    have hfirst : readNext specs .front token = .ok ⟨⟨given, []⟩, .front⟩ := by
      rw [readNext_option hmark hoption, hread]
      rfl
    rw [finish_cons rest hfirst, ih]
    rfl
  | case5 token hmark hoption given option name hread =>
    rw [scan_cons, readNext_option hmark hoption, hread]
    rfl
  | case6 token hmark hoption given option name hread value rest ih =>
    have hfirst : readNext specs .front token = .ok ⟨⟨given, []⟩, .awaiting option name⟩ := by
      rw [readNext_option hmark hoption, hread]
      rfl
    have hvalue : readNext specs (.awaiting option name) value =
        .ok ⟨⟨[(option, some value)], []⟩, .front⟩ := rfl
    rw [finish_cons _ hfirst, finish_cons rest hvalue, ih]
    cases scan specs .front rest >>= Scan.finish with
    | error fault => rfl
    | ok later => simp [Except.map, Parsed.addGiven, Parsed.append]
  | case7 token rest hmark hoption _ ih =>
    rw [finish_cons rest (readNext_operand hmark hoption), ih]
    rfl
  | case8 => contradiction

/-- A line is accepted if its tokens can be read and no option waits for its value in the end. -/
theorem parse_eq_ok_iff {tokens : List String} {parsed : Parsed ι} :
    parse specs true tokens = .ok parsed ↔
      scan specs .front tokens = .ok ⟨parsed, .front⟩ ∨
        scan specs .front tokens = .ok ⟨parsed, .behind⟩ := by
  rw [parse_eq_scan]
  match scan specs .front tokens with
  | .error fault => simp [bind, Except.bind]
  | .ok ⟨found, .front⟩ | .ok ⟨found, .behind⟩ => simp [bind, Except.bind, Scan.finish]
  | .ok ⟨found, .awaiting option name⟩ => simp [bind, Except.bind, Scan.finish]

theorem scan_cons_eq_ok_iff {standing : Standing ι} {token : String} {rest : List String} {scanned : Scan ι} :
    scan specs standing (token :: rest) = .ok scanned ↔
      ∃ first later, readNext specs standing token = .ok first ∧
        scan specs first.standing rest = .ok later ∧ first.append later = scanned := by
  simp only [scan_cons, Results.bind_eq_ok_iff, Results.map_eq_ok_iff, ← exists_and_left]

/-- Two parts of a line are read one after the other. -/
theorem scan_append_eq_ok_iff {standing : Standing ι} {before after : List String} {scanned : Scan ι} :
    scan specs standing (before ++ after) = .ok scanned ↔
      ∃ first later, scan specs standing before = .ok first ∧ scan specs first.standing after = .ok later ∧
        first.append later = scanned := by
  induction before generalizing standing scanned with
  | nil =>
    constructor
    · intro h
      exact ⟨⟨⟨[], []⟩, standing⟩, scanned, rfl, h, rfl⟩
    · rintro ⟨first, later, hfirst, hlater, rfl⟩
      obtain rfl := Except.ok.inj hfirst
      exact hlater
  | cons token rest ih =>
    simp only [List.cons_append, scan_cons_eq_ok_iff, ih]
    constructor
    · rintro ⟨one, _, hone, ⟨first, later, hfirst, hlater, rfl⟩, rfl⟩
      exact ⟨_, later, ⟨one, first, hone, hfirst, rfl⟩, hlater, by
        simp only [Scan.append, Parsed.append_assoc]⟩
    · rintro ⟨_, later, ⟨one, first, hone, hfirst, rfl⟩, hlater, rfl⟩
      exact ⟨one, _, hone, ⟨first, later, hfirst, hlater, rfl⟩, by
        simp only [Scan.append, Parsed.append_assoc]⟩

end FactIntake.Options
