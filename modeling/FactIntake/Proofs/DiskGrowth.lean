import FactIntake.Disk
import FactIntake.Proofs.Results

/-!
Disks that grow. New nodes come, and files get other content, but no node goes: directories and links
stay what they are. So a path that led to a node leads to the same node afterwards, and a path that led
to a free name leads to the file that is put there.
-/

namespace FactIntake.Disk

/-- What may become of a node: a file may get other content. -/
inductive Kept : Node → Node → Prop
  | same (node : Node) : Kept node node
  | rewritten (content fresh : Encoding.Bytes) : Kept (.file content) (.file fresh)

theorem Kept.trans {first second third : Node} (h : Kept first second) (hlater : Kept second third) :
    Kept first third := by
  cases h with
  | same => exact hlater
  | rewritten content _ =>
    cases hlater with
    | same _ => exact .rewritten content _
    | rewritten _ fresh => exact .rewritten content fresh

/-- No node goes, and only files change. -/
structure Grows (before after : Disk) : Prop where
  home : after.home = before.home
  kept : ∀ location node, before.node? location = some node →
    ∃ later, after.node? location = some later ∧ Kept node later

theorem Grows.refl (disk : Disk) : Grows disk disk :=
  ⟨rfl, fun _ node h => ⟨node, h, .same node⟩⟩

theorem Grows.trans {first second third : Disk} (h : Grows first second) (hlater : Grows second third) :
    Grows first third := by
  refine ⟨hlater.home.trans h.home, fun location node hnode => ?_⟩
  obtain ⟨middle, hmiddle, hkept⟩ := h.kept location node hnode
  obtain ⟨last, hlast, hkeptLater⟩ := hlater.kept location middle hmiddle
  exact ⟨last, hlast, hkept.trans hkeptLater⟩

theorem Grows.put {disk : Disk} {location : Location} {node : Node}
    (h : ∀ old, disk.node? location = some old → Kept old node) : Grows disk (disk.put location node) := by
  refine ⟨rfl, fun other old hold => ?_⟩
  by_cases heq : other = location
  · subst heq
    exact ⟨node, node?_put_self .., h old hold⟩
  · exact ⟨old, (node?_put_of_ne disk node heq).trans hold, .same old⟩

theorem Grows.put_file {disk : Disk} {location : Location} {content : Encoding.Bytes}
    (h : disk.node? location = none ∨ ∃ old, disk.node? location = some (.file old)) :
    Grows disk (disk.put location (.file content)) := by
  refine Grows.put fun old hold => ?_
  rcases h with hfree | ⟨content, hcontent⟩
  · simp [hfree] at hold
  · obtain rfl := Option.some.inj (hcontent.symm.trans hold)
    exact .rewritten content _

section

variable {before after : Disk} {location : Location}

theorem Grows.directory (hgrows : Grows before after) (h : before.node? location = some .directory) :
    after.node? location = some .directory := by
  obtain ⟨later, hlater, hkept⟩ := hgrows.kept location _ h
  cases hkept
  exact hlater

theorem Grows.link (hgrows : Grows before after) {target : String}
    (h : before.node? location = some (.link target)) : after.node? location = some (.link target) := by
  obtain ⟨later, hlater, hkept⟩ := hgrows.kept location _ h
  cases hkept
  exact hlater

end

/-- The location of a node, or the one that a free name would have. -/
def Found.location : Found → Location
  | .node location => location
  | .vacant directory name => directory ++ [name]

/-- A free name has no node. -/
theorem node?_of_vacant {disk : Disk} {through : Bool} {links : Nat} {here directory : Location}
    {name : String} {names : List String}
    (h : disk.walk through links here names = .ok (.vacant directory name)) :
    disk.node? (directory ++ [name]) = none := by
  fun_induction walk disk through links here names with
  | case1 | case4 | case6 | case7 | case8 | case11 => simp at h
  | case2 _ _ _ _ _ _ ih | case3 _ _ _ _ _ _ _ ih => exact ih h
  | case5 links here first names _ _ _ _ there hfree _ =>
    obtain ⟨rfl, rfl⟩ : here = directory ∧ first = name := by simpa using h
    exact hfree
  | case9 _ _ _ _ _ _ _ _ _ _ _ _ ih | case10 _ _ _ _ _ _ _ _ _ _ _ _ ih => exact ih h

/-- A path leads where it led, and to a file that is put where it led to a free name. -/
theorem walk_of_grows {before after : Disk} (hgrows : Grows before after) {through : Bool} {links : Nat}
    {here : Location} {names : List String} {found : Found}
    (h : before.walk through links here names = .ok found)
    (hfile : before.node? found.location = none →
      ∃ content, after.node? found.location = some (.file content)) :
    after.walk through links here names = .ok (.node found.location) := by
  fun_induction walk before through links here names with
  | case1 links here =>
    obtain rfl := Except.ok.inj h
    rw [walk]
    rfl
  | case2 links here name names hhere hstay ih =>
    rw [walk, hgrows.directory hhere]
    simp only [hstay, if_true]
    exact ih h
  | case3 links here name names hhere hstay hup ih =>
    rw [walk, hgrows.directory hhere]
    simp only [hstay, hup, if_true, Bool.false_eq_true, if_false]
    exact ih h
  | case5 links here name names hhere hstay hup hlong there hfree hlast =>
    obtain rfl := Except.ok.inj h
    obtain ⟨content, hcontent⟩ := hfile hfree
    have hnames : names = [] := List.isEmpty_iff.mp hlast
    simp only [Found.location] at hcontent ⊢
    rw [walk, hgrows.directory hhere]
    simp only [hstay, hup, hlong, Bool.false_eq_true, if_false, hcontent, hnames]
    rw [walk]
  | case7 links here name names hhere hstay hup hlong there target hlink hstop =>
    obtain rfl := Except.ok.inj h
    have hlater : after.node? (here ++ [name]) = some (.link target) := hgrows.link hlink
    rw [walk, hgrows.directory hhere]
    simp only [hstay, hup, hlong, Bool.false_eq_true, if_false, hlater, hstop, if_true]
    rfl
  | case9 here name names hhere hstay hup hlong there target hlink hstop links ih =>
    have hlater : after.node? (here ++ [name]) = some (.link target) := hgrows.link hlink
    rw [walk, hgrows.directory hhere]
    simp only [hstay, hup, hlong, Bool.false_eq_true, if_false, hlater, hstop]
    exact ih h
  | case10 links here name names hhere hstay hup hlong there node hnode hthere ih =>
    obtain ⟨later, hlater, hkept⟩ := hgrows.kept (here ++ [name]) node hthere
    rw [walk, hgrows.directory hhere]
    simp only [hstay, hup, hlong, Bool.false_eq_true, if_false, hlater]
    cases later with
    | directory | file => exact ih h
    | link target =>
      cases hkept
      exact absurd rfl (hnode target)
  | case4 | case6 | case8 | case11 => simp at h

theorem find_eq_ok_iff {disk : Disk} {through : Bool} {path : String} {found : Found} :
    disk.find through path = .ok found ↔ path.isEmpty = false ∧ path.utf8ByteSize ≤ pathLimit ∧
      disk.walk through linkLimit (disk.start path) (steps path) = .ok found := by
  unfold find
  split
  · next hempty => simp [hempty]
  · next hempty =>
    split
    · next hlong => simp [Nat.not_le.mpr hlong]
    · next hlong => simp [hempty, Nat.not_lt.mp hlong]

/-- A path leads where it led, and to a file that is put where it led to a free name. -/
theorem find_of_grows {before after : Disk} (hgrows : Grows before after) {through : Bool} {path : String}
    {found : Found} (h : before.find through path = .ok found)
    (hfile : before.node? found.location = none →
      ∃ content, after.node? found.location = some (.file content)) :
    after.find through path = .ok (.node found.location) := by
  obtain ⟨hempty, hlong, hwalk⟩ := find_eq_ok_iff.mp h
  have hstart : after.start path = before.start path := by simp only [start, hgrows.home]
  refine find_eq_ok_iff.mpr ⟨hempty, hlong, ?_⟩
  rw [hstart]
  exact walk_of_grows hgrows hwalk hfile

/-- Writing puts the content where the path leads then, at a free name or in place of a file. -/
theorem write_eq_ok {disk after : Disk} {path : String} {content : Encoding.Bytes}
    (h : disk.write path content = .ok after) :
    ∃ location, after = disk.put location (.file content) ∧ after.find true path = .ok (.node location) ∧
      (disk.node? location = none ∨ ∃ old, disk.node? location = some (.file old)) := by
  obtain ⟨found, hfind, hfound⟩ := Results.bind_eq_ok_iff.mp h
  obtain ⟨hafter, hplace⟩ : after = disk.put found.location (.file content) ∧
      (disk.node? found.location = none ∨ ∃ old, disk.node? found.location = some (.file old)) := by
    cases found with
    | vacant directory name =>
      obtain ⟨-, -, hwalk⟩ := find_eq_ok_iff.mp hfind
      exact ⟨(Except.ok.inj hfound).symm, Or.inl (node?_of_vacant hwalk)⟩
    | node location =>
      cases hnode : disk.node? location with
      | none => simp [hnode] at hfound
      | some node =>
        cases node with
        | file old =>
          simp only [hnode, Except.ok.injEq] at hfound
          exact ⟨hfound.symm, Or.inr ⟨old, hnode⟩⟩
        | directory | link => simp [hnode] at hfound
  have hgrows : Grows disk after := hafter ▸ Grows.put_file hplace
  refine ⟨found.location, hafter, find_of_grows hgrows hfind fun _ => ⟨content, ?_⟩, hplace⟩
  rw [hafter, node?_put_self]

theorem write_grows {disk after : Disk} {path : String} {content : Encoding.Bytes}
    (h : disk.write path content = .ok after) : Grows disk after := by
  obtain ⟨location, rfl, -, hplace⟩ := write_eq_ok h
  exact Grows.put_file hplace

/-- What is written to a path is read there afterwards. -/
theorem read_of_write {disk after : Disk} {path : String} {content : Encoding.Bytes}
    (h : disk.write path content = .ok after) : after.read path = .ok content := by
  obtain ⟨location, hput, hfind, -⟩ := write_eq_ok h
  have hnode : after.node? location = some (.file content) := by rw [hput, node?_put_self]
  simp only [read, hfind, bind, Except.bind, hnode]

theorem write_of_vacant {disk : Disk} {path name : String} {directory : Location}
    (h : disk.find true path = .ok (.vacant directory name)) (content : Encoding.Bytes) :
    disk.write path content = .ok (disk.put (directory ++ [name]) (.file content)) := by
  simp only [write, h, bind, Except.bind]

/-- Where names lead from a location: along directories and through links, however many. -/
inductive Leads (disk : Disk) : Location → List String → Location → Prop
  | here (location : Location) : Leads disk location [] location
  | stay {here there : Location} {names : List String} (h : Leads disk here names there) :
      Leads disk here ("." :: names) there
  | up {here there : Location} {names : List String} (h : Leads disk here.dropLast names there) :
      Leads disk here (".." :: names) there
  | down {here there : Location} {name : String} {names : List String}
      (hname : name ≠ "." ∧ name ≠ "..") (hdirectory : disk.node? (here ++ [name]) = some .directory)
      (h : Leads disk (here ++ [name]) names there) : Leads disk here (name :: names) there
  | follow {here there : Location} {name target : String} {names : List String}
      (hname : name ≠ "." ∧ name ≠ "..") (hlink : disk.node? (here ++ [name]) = some (.link target))
      (h : Leads disk (if isAbsolute target then [] else here) (steps target ++ names) there) :
      Leads disk here (name :: names) there

theorem Leads.append {disk : Disk} {here there last : Location} {names more : List String}
    (h : Leads disk here names there) (hmore : Leads disk there more last) :
    Leads disk here (names ++ more) last := by
  induction h with
  | here => exact hmore
  | stay _ ih => exact .stay (ih hmore)
  | up _ ih => exact .up (ih hmore)
  | down hname hdirectory _ ih => exact .down hname hdirectory (ih hmore)
  | follow hname hlink _ ih => exact .follow hname hlink (by simpa using ih hmore)

theorem Leads.of_grows {before after : Disk} (hgrows : Grows before after) {here there : Location}
    {names : List String} (h : Leads before here names there) : Leads after here names there := by
  induction h with
  | here => exact .here _
  | stay _ ih => exact .stay ih
  | up _ ih => exact .up ih
  | down hname hdirectory _ ih => exact .down hname (hgrows.directory hdirectory) ih
  | follow hname hlink _ ih => exact .follow hname (hgrows.link hlink) ih

/-- A walk that ends in a directory goes where the names lead. -/
theorem leads_of_walk {disk : Disk} {links : Nat} {here there : Location} {names : List String}
    (h : disk.walk true links here names = .ok (.node there))
    (hdirectory : disk.node? there = some .directory) : Leads disk here names there := by
  fun_induction walk disk true links here names with
  | case1 links here =>
    obtain rfl : here = there := by simpa using h
    exact .here here
  | case2 links here name names hhere hstay ih =>
    obtain rfl : name = "." := by simpa using hstay
    exact .stay (ih h)
  | case3 links here name names hhere hstay hup ih =>
    obtain rfl : name = ".." := by simpa using hup
    exact .up (ih h)
  | case9 here name names hhere hstay hup hlong on target hlink hstop links ih =>
    exact .follow ⟨by simpa using hstay, by simpa using hup⟩ hlink (by simpa using ih h)
  | case10 links here name names hhere hstay hup hlong on node hnode hon ih =>
    cases node with
    | directory => exact .down ⟨by simpa using hstay, by simpa using hup⟩ hon (ih h)
    | link target => exact absurd rfl (hnode target)
    | file content =>
      -- Nothing is below a file, so the walk ends at one.
      cases names with
      | nil =>
        obtain rfl : on = there := by simpa [walk] using h
        rw [hon] at hdirectory
        cases hdirectory
      | cons next names =>
        rw [walk, hon] at h
        simp at h
  | case7 links here name names hhere hstay hup hlong on target hlink hstop => simp at hstop
  | case4 | case5 | case6 | case8 | case11 => simp at h

end FactIntake.Disk
