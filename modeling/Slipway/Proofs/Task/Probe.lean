import Mathlib.Data.List.Nodup
import Mathlib.Data.List.Perm.Subperm
import Slipway.Proofs.Machine.Sound
import Slipway.Proofs.Text.Digits
import Slipway.Task.Pack
set_option autoImplicit false

/-!
The file that is made to see whether one can be made.  Temporary names never run out while objects do, so the search for
a free one succeeds and ends at the first (`firstFree_eq_iff`); nothing but the length of the name or of the path can be
in the way of a file in a directory that is there (`probe_eq_ok_iff`).
-/

namespace Slipway.Pack

section Name

theorem temporaryEnding_injective : Function.Injective temporaryEnding := by
  have hdigits (k : Nat) : "XXXXXX".toList ≠ paddedNat 6 k := by
    intro h
    have hx : 'X' ∈ paddedNat 6 k := h ▸ List.mem_cons_self
    exact absurd (isDigits_paddedNat 6 k 'X' hx) (by decide)
  intro j k h
  match j, k with
  | 0, 0 => rfl
  | 0, k + 1 => exact absurd h (hdigits k)
  | j + 1, 0 => exact absurd h.symm (hdigits j)
  | j + 1, k + 1 =>
    have hvalue := congrArg digitsValue h
    simp only [temporaryEnding, digitsValue_paddedNat] at hvalue
    rw [hvalue]

theorem temporaryName_injective : Function.Injective temporaryName := fun _ _ h =>
  temporaryEnding_injective (List.append_cancel_left (utf8_injective h))

theorem slash_notMem_temporaryEnding (k : Nat) : '/' ∉ temporaryEnding k := by
  cases k with
  | zero => decide
  | succ k => exact fun h => absurd (isDigits_paddedNat 6 k '/' h) (by decide)

theorem ne_temporaryName {n : Bytes} (h : n.length < 20) (k : Nat) : n ≠ temporaryName k := by
  rintro rfl
  have hlong : (utf8 temporaryStem).length = 20 := by decide
  rw [temporaryName, utf8_append, List.length_append, hlong] at h
  exact Nat.not_lt.2 (Nat.le_add_right 20 _) h

theorem isName_temporaryName (k : Nat) : Path.IsName (temporaryName k) := by
  have hne {n : Bytes} (h : n.length < 20) : temporaryName k ≠ n := (ne_temporaryName h k).symm
  refine ⟨hne (by decide), ?_, hne (by decide), hne (by decide)⟩
  rw [temporaryName, ascii_mem_utf8_iff (by decide), List.mem_append]
  exact not_or.2 ⟨by decide, slash_notMem_temporaryEnding k⟩

variable {dir : Bytes} {m : Machine} {k : Nat}

theorem exists_node_of_isTaken (hdir : dir ≠ []) (h : isTaken (Path.join dir (temporaryName k)) m = true) :
    ∃ l, m.tree.node? (l ++ [temporaryName k]) ≠ none := by
  unfold isTaken at h
  split at h
  case h_3 s hfree hs =>
    have hwalk := Tree.walk_of_locate hs
    rw [Move.ofPath_join hdir (isName_temporaryName k)] at hwalk
    exact Tree.walk_taken hfree hwalk
  all_goals cases h

/-- The objects there are cannot take one name more than they are. -/
theorem exists_not_isTaken (hdir : dir ≠ []) (m : Machine) :
    ∃ k ∈ List.range (m.tree.entries.length + 1), isTaken (Path.join dir (temporaryName k)) m = false := by
  by_contra hnone
  let names := (List.range (m.tree.entries.length + 1)).map temporaryName
  have hnodup : names.Nodup := List.nodup_range.map temporaryName_injective
  have hsubset : names ⊆ m.tree.entries.filterMap fun e => e.1.getLast? := by
    intro n hn
    obtain ⟨k, hk, rfl⟩ := List.mem_map.1 hn
    have htaken : isTaken (Path.join dir (temporaryName k)) m = true :=
      Bool.not_eq_false _ ▸ fun hfree => hnone ⟨k, hk, hfree⟩
    obtain ⟨l, hl⟩ := exists_node_of_isTaken hdir htaken
    obtain ⟨node, hnode⟩ := Option.ne_none_iff_exists'.1 hl
    exact List.mem_filterMap.2 ⟨_, Tree.mem_of_node? (by simp) hnode, List.getLast?_concat⟩
  have hlength := (List.subperm_of_subset hnodup hsubset).length_le
  have hentries := List.length_filterMap_le (fun e : Location × Node => e.1.getLast?) m.tree.entries
  simp only [names, List.length_map, List.length_range] at hlength
  omega

theorem firstFree_eq_iff (hdir : dir ≠ []) :
    firstFree dir m = k ↔
      isTaken (Path.join dir (temporaryName k)) m = false ∧ ∀ j < k, isTaken (Path.join dir (temporaryName j)) m = true := by
  obtain ⟨i, hi, hi'⟩ := exists_not_isTaken hdir m
  obtain ⟨first, hfirst⟩ := Option.isSome_iff_exists.1
    (List.find?_isSome (p := fun k => !isTaken (Path.join dir (temporaryName k)) m) |>.2 ⟨i, hi, by simp [hi']⟩)
  have heq : firstFree dir m = first := by rw [firstFree, hfirst, Option.getD_some]
  obtain ⟨hfree, -, hbefore⟩ := List.find?_range_eq_some.1 hfirst
  simp only [Bool.not_eq_true', Bool.not_not] at hfree hbefore
  rw [heq]
  constructor
  case mp =>
    rintro rfl
    exact ⟨hfree, hbefore⟩
  case mpr =>
    rintro ⟨hk, hk'⟩
    rcases Nat.lt_trichotomy first k with h | h | h
    · rw [hk' first h] at hfree
      contradiction
    · exact h
    · rw [hbefore k h] at hk
      contradiction

theorem temporaryPath_eq (hdir : Path.isAbsolute dir = true) (m : Machine) :
    temporaryPath dir m = .ok (Path.join dir (temporaryName (firstFree dir m))) := by
  simp only [temporaryPath, hdir, if_true, Except.map]

/-- Where the way to the temporary path can be gone, nothing stands at its end. -/
theorem locate_temporaryPath {spot : Spot} (hdir : Path.isAbsolute dir = true)
    (h : m.tree.locate false m.place (Path.join dir (temporaryName (firstFree dir m))) = .ok spot) :
    ∃ l, spot = .free l := by
  obtain ⟨hfree, -⟩ := (firstFree_eq_iff (Path.ne_nil_of_isAbsolute hdir)).1 (rfl : firstFree dir m = _)
  rw [isTaken, h] at hfree
  cases spot with
  | free l => exact ⟨l, rfl⟩
  | _ => cases hfree

end Name

section Probe

variable {dir path : Bytes} {l : Location} {m m' : Machine}

theorem createNew_of_free (hl : m.tree.locate false m.place path = .ok (.free l)) :
    createNew path m = .ok { m with tree := m.tree.insert l (.file false []) } := by
  simp [createNew, hl]

theorem removeAll_created (hl : m.tree.locate false m.place path = .ok (.free l)) :
    Machine.removeAll { m with tree := m.tree.insert l (.file false []) } path =
      .ok { m with tree := (m.tree.insert l (.file false [])).remove l } := by
  have hfile : (m.tree.insert l (.file false [])).locate false m.place path = .ok (.file l false []) :=
    Tree.locate_insert_file hl
  simp [Machine.removeAll, hfile]

theorem removeAll_created_of_closed (ht : m.tree.Closed) (hl : m.tree.locate false m.place path = .ok (.free l)) :
    Machine.removeAll { m with tree := m.tree.insert l (.file false []) } path = .ok m := by
  rw [removeAll_created hl, Tree.remove_insert ht _ (Tree.walk_free (Tree.walk_of_locate hl))]

theorem probe_of_free (ht : m.tree.Closed) (hp : temporaryPath dir m = .ok path)
    (hl : m.tree.locate false m.place path = .ok (.free l)) : probe dir m = .ok m := by
  simp only [probe, hp, createNew_of_free hl, removeAll_created_of_closed ht hl]

theorem exists_free_of_probe (hp : temporaryPath dir m = .ok path) (h : probe dir m = .ok m') :
    ∃ l, m.tree.locate false m.place path = .ok (.free l) := by
  cases hl : m.tree.locate false m.place path with
  | error c => simp [probe, hp, createNew, hl] at h
  | ok spot =>
    cases spot with
    | free l => exact ⟨l, rfl⟩
    | _ => simp [probe, hp, createNew, hl] at h

theorem exists_eq_of_probe (h : probe dir m = .ok m') :
    ∃ l, m' = { m with tree := (m.tree.insert l (.file false [])).remove l } := by
  cases hp : temporaryPath dir m with
  | error c => simp [probe, hp] at h
  | ok path =>
    obtain ⟨l, hl⟩ := exists_free_of_probe hp h
    simp only [probe, hp, createNew_of_free hl, removeAll_created hl] at h
    exact ⟨l, (Except.ok.inj h).symm⟩

theorem place_probe (h : probe dir m = .ok m') : m'.place = m.place := by
  obtain ⟨l, rfl⟩ := exists_eq_of_probe h
  rfl

theorem env_probe (h : probe dir m = .ok m') : m'.env = m.env := by
  obtain ⟨l, rfl⟩ := exists_eq_of_probe h
  rfl

theorem eq_of_probe (ht : m.tree.Closed) (h : probe dir m = .ok m') :
    m' = m ∧ ∃ path l, m.tree.node? l = none ∧
      createNew path m = .ok { m with tree := m.tree.insert l (.file false []) } ∧
      Machine.removeAll { m with tree := m.tree.insert l (.file false []) } path = .ok m' := by
  cases hp : temporaryPath dir m with
  | error c => simp [probe, hp] at h
  | ok path =>
    obtain ⟨l, hl⟩ := exists_free_of_probe hp h
    obtain rfl := Except.ok.inj ((probe_of_free ht hp hl).symm.trans h)
    exact ⟨rfl, path, l, Tree.walk_free (Tree.walk_of_locate hl), createNew_of_free hl,
      removeAll_created_of_closed ht hl⟩

theorem proper_of_probe (hdir : Path.isAbsolute dir = true) (h : probe dir m = .ok m') : Tree.Proper dir := by
  obtain ⟨l, hl⟩ := exists_free_of_probe (temporaryPath_eq hdir m) h
  exact (Tree.proper_of_locate hl).of_join (Path.ne_nil_of_isAbsolute hdir)
    (Move.isAbsolute_of_isName (isName_temporaryName _))

/-- In a directory that is there a file can be made, however many names are taken in it, unless its own name or path would
be too long. -/
theorem probe_eq_ok_iff (ht : m.tree.Sound) (hl : m.tree.node? l = some .dir) :
    let name := temporaryName (firstFree (Location.path l) m)
    probe (Location.path l) m = .ok m ↔
      Tree.Proper (Path.join (Location.path l) name) ∧ name.length ≤ Tree.nameLimit := by
  intro name
  have hdir : Path.isAbsolute (Location.path l) = true := rfl
  have hname : Path.IsName name := isName_temporaryName _
  constructor
  case mp =>
    intro h
    obtain ⟨k, hk⟩ := exists_free_of_probe (temporaryPath_eq hdir m) h
    have hlocate : m.tree.locate true m.place (Location.path l) = .ok (.dir ⟨l, 0⟩) :=
      Tree.locate_path ht hl (proper_of_probe hdir h)
    obtain ⟨links, hwalk⟩ := Tree.walk_of_locate_join hlocate hname hk
    exact ⟨Tree.proper_of_locate hk, (Tree.passes_of_walk hwalk).short⟩
  case mpr =>
    rintro ⟨hproper, hshort⟩
    have hproper' := hproper.of_join (Path.ne_nil_of_isAbsolute hdir) (Move.isAbsolute_of_isName hname)
    have hlocate : m.tree.locate true m.place (Location.path l) = .ok (.dir ⟨l, 0⟩) :=
      Tree.locate_path ht hl hproper'
    obtain ⟨links, hjoin⟩ := Tree.locate_join hlocate hname hproper false
    have hpasses : Tree.Manner.Passes ⟨false, fun _ => true⟩ ⟨l, 0⟩ name := ⟨hshort, rfl, rfl⟩
    cases hnode : m.tree.node? (l ++ [name]) with
    | none =>
      rw [Tree.walk_name_free hpasses hnode] at hjoin
      exact probe_of_free ht.closed (temporaryPath_eq hdir m) hjoin
    | some node =>
      obtain ⟨spot, hspot, htaken⟩ := Tree.walk_name_taken hpasses rfl hnode
      rw [hspot] at hjoin
      obtain ⟨k, rfl⟩ := locate_temporaryPath hdir hjoin
      exact absurd rfl (htaken k)

end Probe

end Slipway.Pack
