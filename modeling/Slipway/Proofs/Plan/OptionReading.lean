import Slipway.Proofs.Plan.Omissions
set_option autoImplicit false

/-!
The archiver's arguments as options and operands, by the usual conventions: letters in clusters, long names with a value
behind an equals sign, values in the next argument, and everything an operand behind `--`.  The plan puts nothing before
the project directory's name that would keep it from being an option, so it is the one operand only as long as it is none
by its look (`PackPlan.read_as_operand_iff`).
-/

namespace Slipway

inductive Argument
  | letter (c : UInt8) (value : Option Bytes)
  | long (name : Bytes) (value : Option Bytes)
  | operand (word : Bytes)
deriving DecidableEq

inductive Awaiting
  | letter (c : UInt8)
  | long (name : Bytes)

def Awaiting.given (value : Bytes) : Awaiting → Argument
  | .letter c => .letter c (some value)
  | .long name => .long name (some value)

structure OptionTable where
  letterTakes : UInt8 → Bool
  longTakes : Bytes → Bool

namespace OptionTable

variable (t : OptionTable)

/-- A cluster of letters.  The first that takes a value has what is left of the cluster, if anything is. -/
def letters : Bytes → List Argument × Option Awaiting
  | [] => ([], none)
  | c :: cs =>
    if t.letterTakes c then
      if cs = [] then ([], some (.letter c)) else ([.letter c (some cs)], none)
    else
      let (items, awaiting) := letters cs
      (.letter c none :: items, awaiting)

def long (text : Bytes) : List Argument × Option Awaiting :=
  let name := text.takeWhile (· != 0x3D)
  match text.dropWhile (· != 0x3D) with
  | _ :: value => ([.long name (some value)], none)
  | [] => if t.longTakes name then ([], some (.long name)) else ([.long name none], none)

/-- Reads arguments, the first of which may be a value that is awaited; `none` when a value is missing at the end. -/
def readFrom : Option Awaiting → List Bytes → Option (List Argument)
  | none, [] => some []
  | some _, [] => none
  | some a, w :: rest => (readFrom none rest).map (a.given w :: ·)
  | none, w :: rest =>
    match w with
    | [0x2D, 0x2D] => some (rest.map .operand)
    | 0x2D :: 0x2D :: text => (readFrom (t.long text).2 rest).map ((t.long text).1 ++ ·)
    | 0x2D :: c :: cs => (readFrom (t.letters (c :: cs)).2 rest).map ((t.letters (c :: cs)).1 ++ ·)
    | _ => (readFrom none rest).map (.operand w :: ·)

def read (args : List Bytes) : Option (List Argument) := t.readFrom none args

variable {t} {c : UInt8} {w name value : Bytes} {rest : List Bytes}

theorem long_attached (h : 0x3D ∉ name) : t.long (name ++ 0x3D :: value) = ([.long name (some value)], none) := by
  have hname : ∀ c ∈ name, (c != 0x3D) = true := fun c hc => bne_iff_ne.2 fun he => h (he ▸ hc)
  rw [long, List.takeWhile_append_of_pos hname, List.dropWhile_append_of_pos hname]
  simp

theorem readFrom_long (hw : w ≠ []) :
    t.readFrom none ((0x2D :: 0x2D :: w) :: rest) = (t.readFrom (t.long w).2 rest).map ((t.long w).1 ++ ·) := by
  cases w with
  | nil => contradiction
  | cons c cs => rfl

theorem readFrom_letters (hc : c ≠ 0x2D) :
    t.readFrom none ((0x2D :: c :: w) :: rest) =
      (t.readFrom (t.letters (c :: w)).2 rest).map ((t.letters (c :: w)).1 ++ ·) := by
  rw [readFrom]
  · exact fun he _ => hc he
  · exact hc

theorem readFrom_operand (hw : Archiver.isOption w = false) :
    t.readFrom none (w :: rest) = (t.readFrom none rest).map (.operand w :: ·) := by
  unfold Archiver.isOption at hw
  split at hw
  · cases hw
  next hne =>
    rw [readFrom]
    · exact hne 0x2D []
    · exact fun text => hne 0x2D text
    · exact hne

theorem operand_not_mem_letters (cs : Bytes) (word : Bytes) : .operand word ∉ (t.letters cs).1 := by
  induction cs with
  | nil => simp [letters]
  | cons c cs ih =>
    rw [letters]
    split
    · split <;> simp
    · simpa using ih

theorem operand_not_mem_long (text word : Bytes) : .operand word ∉ (t.long text).1 := by
  rw [long]
  split
  · simp
  · split <;> simp

theorem readFrom_nil {awaiting : Option Awaiting} {items : List Argument} (h : t.readFrom awaiting [] = some items) :
    items = [] := by
  cases awaiting with
  | none => exact (Option.some.inj h).symm
  | some _ => cases h

theorem operand_not_mem_option (hw : Archiver.isOption w = true) {items : List Argument}
    (h : t.readFrom none [w] = some items) (word : Bytes) : .operand word ∉ items := by
  unfold Archiver.isOption at hw
  split at hw
  next c cs =>
    by_cases hc : c = 0x2D
    · subst hc
      cases cs with
      | nil =>
        -- Two dashes alone say that all after them is an operand, and nothing is.
        obtain rfl : [] = items := Option.some.inj h
        exact List.not_mem_nil
      | cons c cs =>
        rw [readFrom_long (List.cons_ne_nil c cs)] at h
        obtain ⟨later, hlater, rfl⟩ := Option.map_eq_some_iff.1 h
        rw [readFrom_nil hlater, List.append_nil]
        exact operand_not_mem_long _ word
    · rw [readFrom_letters hc] at h
      obtain ⟨later, hlater, rfl⟩ := Option.map_eq_some_iff.1 h
      rw [readFrom_nil hlater, List.append_nil]
      exact operand_not_mem_letters _ word
  · cases hw

end OptionTable

namespace Archiver

def excludeName : Bytes := utf8 "exclude".toList

/-- What a table says of the letters that a plan uses.  Of all other options nothing is assumed. -/
structure HasTable (t : OptionTable) : Prop where
  compress : t.letterTakes 0x7A = false
  create : t.letterTakes 0x63 = false
  file : t.letterTakes 0x66 = true
  verbose : t.letterTakes 0x76 = false

def table : OptionTable where
  letterTakes c := (utf8 "bCfFgHIKLNTVX".toList).contains c
  longTakes name :=
    (["blocking-factor", "directory", "exclude", "exclude-from", "exclude-tag", "file", "files-from", "format", "group",
      "label", "mode", "mtime", "owner", "record-size", "sort", "transform", "use-compress-program"].map
        fun n => utf8 n.toList).contains name

theorem hasTable_table : HasTable table := by
  constructor <;> decide

variable {t : OptionTable}

theorem readFrom_exclude (pattern : Bytes) (rest : List Bytes) :
    t.readFrom none ((excludeFlag ++ pattern) :: rest) =
      (t.readFrom none rest).map (.long excludeName (some pattern) :: ·) := by
  have hflag : excludeFlag ++ pattern = 0x2D :: 0x2D :: (excludeName ++ 0x3D :: pattern) := rfl
  rw [hflag, OptionTable.readFrom_long (by simp), OptionTable.long_attached (by decide)]
  rfl

theorem readFrom_excludes (patterns : List Bytes) (rest : List Bytes) :
    t.readFrom none (patterns.map (excludeFlag ++ ·) ++ rest) =
      (t.readFrom none rest).map (patterns.map (fun p => .long excludeName (some p)) ++ ·) := by
  induction patterns with
  | nil => simp
  | cons p ps ih =>
    rw [List.map_cons, List.cons_append, readFrom_exclude, ih, Option.map_map]
    rfl

end Archiver

namespace PackPlan

variable (p : PackPlan)

def options : List Argument :=
  [.letter 0x7A none, .letter 0x63 none, .letter 0x66 (some (utf8 p.fileName)), .letter 0x76 none] ++
    p.omitted.map fun e => .long Archiver.excludeName (some (utf8 e))

variable {p} {t : OptionTable} {onlyCli : Bool} {root : Bytes} {project : Text} {d : Date}

theorem read_step (ht : Archiver.HasTable t) :
    t.read p.step.args = (t.readFrom none [p.member]).map (p.options ++ ·) := by
  have hargs : p.step.args = [0x2D, 0x7A, 0x63, 0x66] :: utf8 p.fileName :: Archiver.given p.step.args := rfl
  have hgiven : Archiver.given p.step.args =
      [0x2D, 0x76] :: ((p.omitted.map utf8).map (Archiver.excludeFlag ++ ·) ++ [p.member]) := by
    rw [given_step, List.map_map]
    rfl
  have hcluster : t.letters [0x7A, 0x63, 0x66] = ([.letter 0x7A none, .letter 0x63 none], some (.letter 0x66)) := by
    simp [OptionTable.letters, ht.compress, ht.create, ht.file]
  have hverbose : t.letters [0x76] = ([.letter 0x76 none], none) := by simp [OptionTable.letters, ht.verbose]
  rw [hargs, hgiven, OptionTable.read, OptionTable.readFrom_letters (by decide), hcluster]
  rw [OptionTable.readFrom, OptionTable.readFrom_letters (by decide), hverbose, Archiver.readFrom_excludes]
  simp only [Option.map_map, Function.comp_def, List.map_map, options]
  rfl

theorem of_ofRoot {p : PackPlan} (hp : ofRoot onlyCli root project d = .ok p) :
    p.fileName = fileNameFor project d ∧ Path.fileName? root = some p.member := by
  obtain ⟨dir, n, hsplit, -, rfl⟩ := ofRoot_eq_ok_iff.1 hp
  simp [Path.fileName?, hsplit]

/-- By the archiver's table the plan's arguments are its options, and after them the one operand that they are meant to
have, just where the project directory's name does not look like an option.  Where it does there is no operand at all. -/
theorem read_as_operand_iff (ht : Archiver.HasTable t) {p : PackPlan} (hp : ofRoot onlyCli root project d = .ok p) :
    p.step.program = utf8 "tar".toList ∧ Path.fileName? root = some p.member ∧
    p.options =
      [.letter 0x7A none, .letter 0x63 none, .letter 0x66 (some (utf8 (fileNameFor project d))), .letter 0x76 none] ++
        (omittedFor onlyCli).map (fun e => .long Archiver.excludeName (some (utf8 e))) ∧
    (t.read p.step.args = some (p.options ++ [.operand p.member]) ↔ Archiver.isOption p.member = false) ∧
    (Archiver.isOption p.member = true → ∀ items, t.read p.step.args = some items →
      ∃ more, items = p.options ++ more ∧ ∀ word, .operand word ∉ items) := by
  obtain ⟨hfile, hmember⟩ := of_ofRoot hp
  have hmeant (word : Bytes) : .operand word ∉ p.options := by simp [options]
  refine ⟨rfl, hmember, by rw [options, hfile, omitted_of_ofRoot hp], ⟨fun hread => ?_, fun hname => ?_⟩,
    fun hname items hread => ?_⟩
  · refine Bool.eq_false_iff.2 fun hname => ?_
    rw [read_step ht, Option.map_eq_some_iff] at hread
    obtain ⟨more, hmore, heq⟩ := hread
    obtain rfl : more = [.operand p.member] := List.append_cancel_left heq
    exact OptionTable.operand_not_mem_option hname hmore p.member List.mem_cons_self
  · rw [read_step ht, OptionTable.readFrom_operand hname]
    rfl
  · rw [read_step ht, Option.map_eq_some_iff] at hread
    obtain ⟨more, hmore, rfl⟩ := hread
    refine ⟨more, rfl, fun word hmem => ?_⟩
    rcases List.mem_append.1 hmem with hmem | hmem
    · exact hmeant word hmem
    · exact OptionTable.operand_not_mem_option hname hmore word hmem

/-- An archive name that looks like an option is none, for it is the value of the one before it. -/
theorem read_as_operand_iff_fofimon :
    let d : Date := ⟨2024, 3, 5, by decide, by decide, by decide, by decide, by decide, by decide⟩
    let p : PackPlan := ⟨true, omittedFor true, fileNameFor "-p".toList d, utf8 "a-b".toList, utf8 "/src/--".toList⟩
    Archiver.HasTable Archiver.table ∧ ofRoot true (utf8 "/src/--//a-b/.".toList) "-p".toList d = .ok p ∧
      Archiver.table.read p.step.args = some (p.options ++ [.operand (utf8 "a-b".toList)]) := by
  intro d p
  have hp : ofRoot true (utf8 "/src/--//a-b/.".toList) "-p".toList d = .ok p := rfl
  obtain ⟨-, -, -, hread, -⟩ := read_as_operand_iff Archiver.hasTable_table hp
  exact ⟨Archiver.hasTable_table, hp, hread.2 rfl⟩

/-- A project directory that is called like an option is one, and then there is nothing to archive. -/
theorem dashed_directory_read_as_option :
    let d : Date := ⟨2024, 3, 5, by decide, by decide, by decide, by decide, by decide, by decide⟩
    let p : PackPlan := ⟨false, omittedFor false, fileNameFor projectName d, utf8 "-x".toList, utf8 "/src".toList⟩
    ofRoot false (utf8 "/src/-x".toList) projectName d = .ok p ∧
      Archiver.table.read p.step.args = some (p.options ++ [.letter 0x78 none]) ∧
      Archiver.table.read p.step.args ≠ some (p.options ++ [.operand p.member]) := by
  intro d p
  have hread : Archiver.table.read p.step.args = some (p.options ++ [.letter 0x78 none]) := by
    rw [read_step Archiver.hasTable_table]
    rfl
  refine ⟨rfl, hread, fun hmeant => ?_⟩
  have hsame := List.append_cancel_left (Option.some.inj (hread.symm.trans hmeant))
  cases hsame

end PackPlan

end Slipway
