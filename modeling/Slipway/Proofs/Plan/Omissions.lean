import Slipway.Plan.Pack
set_option autoImplicit false

/-!
What the archiver leaves out.  The patterns are meant for what lies in the project directory, but the archiver holds them
against every name of an entry, and so against the project directory itself.  A directory whose name is reserved
(`PackPlan.IsReserved`) makes an empty archive; for any other, unless its name passes for an option, the archive has it as
its single top-level entry (`PackPlan.archived_unless_reserved`).
-/

namespace Slipway

namespace Glob

def star : UInt8 := 0x2A

def otherSpecial : Bytes := utf8 "?[\\".toList

/-- Whether a pattern without other special characters fits a name.  A star stands for any run of bytes. -/
def fits : Bytes → Bytes → Bool
  | [], name => name.isEmpty
  | c :: pattern, name =>
    if c = star then (List.range (name.length + 1)).any fun k => fits pattern (name.drop k)
    else match name with
      | [] => false
      | b :: name => c == b && fits pattern name

def IsLiteral (bs : Bytes) : Prop := ∀ c ∈ bs, c ≠ star ∧ c ∉ otherSpecial

instance (bs : Bytes) : Decidable (IsLiteral bs) := inferInstanceAs (Decidable (∀ c ∈ bs, _))

variable {stem pattern name : Bytes}

theorem fits_nil : fits [] name = true ↔ name = [] := by
  simp [fits]

theorem fits_literal_append (h : IsLiteral stem) :
    fits (stem ++ pattern) name = true ↔ ∃ rest, name = stem ++ rest ∧ fits pattern rest = true := by
  induction stem generalizing name with
  | nil => simp
  | cons c stem ih =>
    have hc : c ≠ star := (h c List.mem_cons_self).1
    have hstem : IsLiteral stem := fun b hb => h b (List.mem_cons_of_mem c hb)
    rw [List.cons_append, fits.eq_def]
    simp only [if_neg hc]
    cases name with
    | nil => simp
    | cons b name => simp [ih hstem, and_assoc, eq_comm (a := c)]

theorem fits_literal (h : IsLiteral stem) : fits stem name = true ↔ name = stem := by
  have hwhole : fits (stem ++ []) name = true ↔ ∃ rest, name = stem ++ rest ∧ fits [] rest = true :=
    fits_literal_append h
  simpa [fits_nil] using hwhole

theorem fits_star : fits [star] name = true := by
  simp only [fits, if_true, List.any_eq_true, List.mem_range]
  exact ⟨name.length, Nat.lt_succ_self _, by simp⟩

theorem fits_literal_star (h : IsLiteral stem) : fits (stem ++ [star]) name = true ↔ stem <+: name := by
  rw [fits_literal_append h]
  exact ⟨fun ⟨rest, hrest, _⟩ => ⟨rest, hrest.symm⟩, fun ⟨rest, hrest⟩ => ⟨rest, hrest.symm, fits_star⟩⟩

end Glob

namespace Archiver

def excludeFlag : Bytes := utf8 "--exclude=".toList

/-- Whether an argument is taken for an option.  A lone dash is an operand. -/
def isOption : Bytes → Bool
  | 0x2D :: _ :: _ => true
  | _ => false

def given (args : List Bytes) : List Bytes := args.drop 2

def pattern? (a : Bytes) : Option Bytes :=
  if excludeFlag.isPrefixOf a then some (a.drop excludeFlag.length) else none

def patterns (args : List Bytes) : List Bytes := (given args).filterMap pattern?

def operands (args : List Bytes) : List Bytes := (given args).filter fun a => !isOption a

def omits (args : List Bytes) (name : Bytes) : Bool := (patterns args).any fun p => Glob.fits p name

/-- The entries of the archive that is made with these arguments, each with the names that lead to it.  `below` are the
paths to what there is below an operand. -/
def entries (args : List Bytes) (below : Bytes → List (List Bytes)) : List (List Bytes) :=
  (operands args).flatMap fun o => (([] :: below o).map (o :: ·)).filter fun e => !e.any (omits args)

theorem pattern?_exclude (p : Bytes) : pattern? (excludeFlag ++ p) = some p := by
  have hpre : excludeFlag.isPrefixOf (excludeFlag ++ p) = true := List.isPrefixOf_iff_prefix.2 (List.prefix_append ..)
  rw [pattern?, if_pos hpre, List.drop_left]

theorem isOption_exclude (p : Bytes) : isOption (excludeFlag ++ p) = true := rfl

theorem pattern?_of_operand {a : Bytes} (h : isOption a = false) : pattern? a = none := by
  refine if_neg fun hpre => ?_
  obtain ⟨p, rfl⟩ := List.isPrefixOf_iff_prefix.1 hpre
  cases h

theorem mem_entries {args : List Bytes} {below : Bytes → List (List Bytes)} {e : List Bytes} :
    e ∈ entries args below ↔
      ∃ o ∈ operands args, ∃ names ∈ [] :: below o, e = o :: names ∧ ∀ n ∈ e, omits args n = false := by
  simp only [entries, List.mem_flatMap, List.mem_filter, List.mem_map, Bool.not_eq_true', List.any_eq_false,
    Bool.not_eq_true]
  constructor
  · rintro ⟨o, ho, ⟨names, hnames, rfl⟩, hkept⟩
    exact ⟨o, ho, names, hnames, rfl, hkept⟩
  · rintro ⟨o, ho, names, hnames, rfl, hkept⟩
    exact ⟨o, ho, ⟨names, hnames, rfl⟩, hkept⟩

end Archiver

namespace PackPlan

def reservedStems (onlyCli : Bool) : List Text :=
  (["build", "nbproject"] ++ if onlyCli then ["gui", "icons", "applications"] else []).map String.toList

def reservedNames (onlyCli : Bool) : List Text :=
  (["configure", ".project", ".cproject", ".settings", "core", ".git", "stuff", ".metadata"] ++
    if onlyCli then ["LICENSE.3rdparty"] else []).map String.toList

def IsReserved (onlyCli : Bool) (name : Bytes) : Prop :=
  (∃ stem ∈ reservedStems onlyCli, utf8 stem <+: name) ∨ ∃ n ∈ reservedNames onlyCli, name = utf8 n

instance (onlyCli : Bool) (name : Bytes) : Decidable (IsReserved onlyCli name) := inferInstanceAs (Decidable (_ ∨ _))

variable {onlyCli : Bool} {pattern : Text} {name : Bytes}

theorem mem_omittedFor :
    pattern ∈ omittedFor onlyCli ↔
      (∃ stem ∈ reservedStems onlyCli, pattern = stem ++ ['*']) ∨ pattern ∈ reservedNames onlyCli := by
  have hto : ∀ t ∈ omittedFor onlyCli, t ∈ (reservedStems onlyCli).map (· ++ ['*']) ++ reservedNames onlyCli := by
    cases onlyCli <;> decide
  have hfrom : ∀ t ∈ (reservedStems onlyCli).map (· ++ ['*']) ++ reservedNames onlyCli, t ∈ omittedFor onlyCli := by
    cases onlyCli <;> decide
  rw [show pattern ∈ omittedFor onlyCli ↔ _ from ⟨hto pattern, hfrom pattern⟩, List.mem_append, List.mem_map]
  simp only [eq_comm (a := pattern)]

theorem utf8_append_star (stem : Text) : utf8 (stem ++ ['*']) = utf8 stem ++ [Glob.star] := by
  rw [utf8_append]
  rfl

theorem isLiteral_of_reserved {t : Text} (h : t ∈ reservedStems onlyCli ++ reservedNames onlyCli) :
    Glob.IsLiteral (utf8 t) := by
  have hall : ∀ t ∈ reservedStems onlyCli ++ reservedNames onlyCli, Glob.IsLiteral (utf8 t) := by
    cases onlyCli <;> decide +kernel
  exact hall t h

theorem otherSpecial_not_mem (h : pattern ∈ omittedFor onlyCli) : ∀ c ∈ utf8 pattern, c ∉ Glob.otherSpecial := by
  rcases mem_omittedFor.1 h with ⟨stem, hstem, rfl⟩ | hname
  · intro c hc
    rw [utf8_append_star, List.mem_append, List.mem_singleton] at hc
    rcases hc with hc | rfl
    · exact (isLiteral_of_reserved (List.mem_append_left _ hstem) c hc).2
    · decide
  · exact fun c hc => (isLiteral_of_reserved (List.mem_append_right _ hname) c hc).2

theorem exists_fits_iff :
    (∃ pattern ∈ omittedFor onlyCli, Glob.fits (utf8 pattern) name = true) ↔ IsReserved onlyCli name := by
  constructor
  · rintro ⟨pattern, hmem, hfits⟩
    rcases mem_omittedFor.1 hmem with ⟨stem, hstem, rfl⟩ | hname
    · rw [utf8_append_star, Glob.fits_literal_star (isLiteral_of_reserved (List.mem_append_left _ hstem))] at hfits
      exact .inl ⟨stem, hstem, hfits⟩
    · exact .inr ⟨pattern, hname, (Glob.fits_literal (isLiteral_of_reserved (List.mem_append_right _ hname))).1 hfits⟩
  · rintro (⟨stem, hstem, hpre⟩ | ⟨n, hn, rfl⟩)
    · refine ⟨stem ++ ['*'], mem_omittedFor.2 (.inl ⟨stem, hstem, rfl⟩), ?_⟩
      rwa [utf8_append_star, Glob.fits_literal_star (isLiteral_of_reserved (List.mem_append_left _ hstem))]
    · exact ⟨n, mem_omittedFor.2 (.inr hn), (Glob.fits_literal (isLiteral_of_reserved (List.mem_append_right _ hn))).2 rfl⟩

section Step

variable (p : PackPlan)

theorem given_step :
    Archiver.given p.step.args =
      utf8 "-v".toList :: p.omitted.map (fun e => Archiver.excludeFlag ++ utf8 e) ++ [p.member] := by
  have hflag (e : Text) : utf8 ("--exclude=".toList ++ e) = Archiver.excludeFlag ++ utf8 e := utf8_append ..
  unfold Archiver.given Step.args step
  dsimp only
  simp only [hflag]
  rfl

theorem operands_step : Archiver.operands p.step.args = if Archiver.isOption p.member then [] else [p.member] := by
  have hverbose : ¬ (!Archiver.isOption (utf8 "-v".toList)) = true := by decide
  have hpatterns : (p.omitted.map fun e => Archiver.excludeFlag ++ utf8 e).filter (fun a => !Archiver.isOption a) = [] :=
    List.filter_eq_nil_iff.2 (List.forall_mem_map.2 fun e _ => by simp [Archiver.isOption_exclude])
  rw [Archiver.operands, given_step, List.filter_append, List.filter_cons_of_neg (p := fun a => !Archiver.isOption a) hverbose, hpatterns]
  cases hm : Archiver.isOption p.member <;> simp [hm]

theorem patterns_step (h : Archiver.isOption p.member = false) : Archiver.patterns p.step.args = p.omitted.map utf8 := by
  have hverbose : Archiver.pattern? (utf8 "-v".toList) = none := by decide
  have hmember : Archiver.pattern? p.member = none := Archiver.pattern?_of_operand h
  have hpatterns : (p.omitted.map fun e => Archiver.excludeFlag ++ utf8 e).filterMap Archiver.pattern? =
      p.omitted.map utf8 := by
    simp only [List.filterMap_map, Function.comp_def, Archiver.pattern?_exclude]
    exact congrFun (List.filterMap_eq_map (f := utf8)) _
  rw [Archiver.patterns, given_step, List.filterMap_append, List.filterMap_cons_none hverbose, hpatterns,
    List.filterMap_cons_none hmember, List.filterMap_nil, List.append_nil]

theorem omits_step {n : Bytes} (h : Archiver.isOption p.member = false) (ho : p.omitted = omittedFor onlyCli) :
    Archiver.omits p.step.args n = true ↔ IsReserved onlyCli n := by
  rw [← exists_fits_iff, Archiver.omits, patterns_step p h, ho, List.any_map, List.any_eq_true]
  rfl

end Step

theorem omitted_of_ofRoot {root : Bytes} {project : Text} {d : Date} {p : PackPlan}
    (hp : ofRoot onlyCli root project d = .ok p) : p.omitted = omittedFor onlyCli := by
  obtain ⟨dir, n, -, -, rfl⟩ := ofRoot_eq_ok_iff.1 hp
  rfl

/-- A pattern of the plan fits the project directory's name just where that is reserved.  Then nothing is archived.
Otherwise, unless the archiver takes the name for an option, the archive has the project directory and in it all that has
no reserved name and is below no such directory. -/
theorem archived_unless_reserved {root : Bytes} {project : Text} {d : Date} {p : PackPlan}
    (hp : ofRoot onlyCli root project d = .ok p) :
    (∀ pattern ∈ p.omitted, ∀ c ∈ utf8 pattern, c ∉ Glob.otherSpecial) ∧
    ((∃ pattern ∈ p.omitted, Glob.fits (utf8 pattern) p.member = true) ↔ IsReserved onlyCli p.member) ∧
    ∀ below,
      (Archiver.entries p.step.args below = [] ↔ IsReserved onlyCli p.member ∨ Archiver.isOption p.member = true) ∧
      ∀ e, e ∈ Archiver.entries p.step.args below ↔ Archiver.isOption p.member = false ∧
        ∃ names ∈ [] :: below p.member, e = p.member :: names ∧ ∀ n ∈ e, ¬ IsReserved onlyCli n := by
  have ho := omitted_of_ofRoot hp
  have hentry (below : Bytes → List (List Bytes)) (e : List Bytes) :
      e ∈ Archiver.entries p.step.args below ↔ Archiver.isOption p.member = false ∧
        ∃ names ∈ [] :: below p.member, e = p.member :: names ∧ ∀ n ∈ e, ¬ IsReserved onlyCli n := by
    rw [Archiver.mem_entries, operands_step]
    cases hm : Archiver.isOption p.member with
    | true => simp
    | false =>
      simp only [← omits_step p hm ho, Bool.not_eq_true, Bool.false_eq_true, if_false, List.mem_singleton, exists_eq_left,
        true_and]
  rw [ho]
  refine ⟨fun pattern => otherSpecial_not_mem, exists_fits_iff, fun below => ⟨?_, hentry below⟩⟩
  · rw [List.eq_nil_iff_forall_not_mem]
    constructor
    · intro hnone
      refine Classical.byContradiction fun hneither => ?_
      obtain ⟨hfree, hoperand⟩ := not_or.1 hneither
      exact hnone [p.member] ((hentry below _).2
        ⟨Bool.eq_false_iff.2 hoperand, [], List.mem_cons_self, rfl, fun n hn => List.mem_singleton.1 hn ▸ hfree⟩)
    · intro hor e he
      obtain ⟨hoperand, names, -, rfl, hkept⟩ := (hentry below e).1 he
      rcases hor with hreserved | hoption
      · exact hkept p.member List.mem_cons_self hreserved
      · rw [hoption] at hoperand
        cases hoperand

theorem archived_unless_reserved_fofimon :
    let d : Date := ⟨2024, 3, 5, by decide, by decide, by decide, by decide, by decide, by decide⟩
    let p : PackPlan := ⟨true, omittedFor true, fileNameFor projectName d, utf8 "fofimon".toList, utf8 "/src".toList⟩
    let below (_ : Bytes) := [[utf8 "src".toList], [utf8 "icons-2".toList], [utf8 "icons-2".toList, utf8 "a".toList]]
    ofRoot true (utf8 "/src/fofimon".toList) projectName d = .ok p ∧
      [p.member, utf8 "src".toList] ∈ Archiver.entries p.step.args below ∧
      [p.member, utf8 "icons-2".toList, utf8 "a".toList] ∉ Archiver.entries p.step.args below := by
  intro d p below
  have hp : ofRoot true (utf8 "/src/fofimon".toList) projectName d = .ok p := rfl
  obtain ⟨-, -, harchived⟩ := archived_unless_reserved hp
  obtain ⟨-, hentry⟩ := harchived below
  refine ⟨hp, (hentry _).2 ⟨rfl, [utf8 "src".toList], List.mem_cons_of_mem _ List.mem_cons_self, rfl, by decide⟩,
    fun he => ?_⟩
  obtain ⟨-, -, -, -, hkept⟩ := (hentry _).1 he
  exact hkept (utf8 "icons-2".toList) (by decide) (by decide)

/-- A project directory that is called like a core dump is left out of its own archive. -/
theorem archive_of_core_empty :
    let d : Date := ⟨2024, 3, 5, by decide, by decide, by decide, by decide, by decide, by decide⟩
    let p : PackPlan := ⟨false, omittedFor false, fileNameFor projectName d, utf8 "core".toList, utf8 "/src".toList⟩
    ofRoot false (utf8 "/src/core".toList) projectName d = .ok p ∧
      (∃ pattern ∈ p.omitted, Glob.fits (utf8 pattern) p.member = true) ∧
      ∀ below, Archiver.entries p.step.args below = [] := by
  intro d p
  have hreserved : IsReserved false p.member := by decide
  refine ⟨rfl, exists_fits_iff.2 hreserved, fun below => List.eq_nil_iff_forall_not_mem.2 fun e he => ?_⟩
  obtain ⟨o, ho, names, -, rfl, hkept⟩ := Archiver.mem_entries.1 he
  have hoperands : Archiver.operands p.step.args = [p.member] := operands_step p
  obtain rfl : o = p.member := List.mem_singleton.1 (hoperands ▸ ho)
  have hnot := hkept p.member List.mem_cons_self
  rw [(omits_step p rfl rfl).2 hreserved] at hnot
  cases hnot

end PackPlan

end Slipway
