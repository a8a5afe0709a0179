import Slipway.Proofs.DotEnv.Quotation
import Slipway.Proofs.Machine.Alike
import Slipway.Proofs.Machine.SameBut
import Slipway.Proofs.Settings.Nearest
set_option autoImplicit false

namespace Slipway

def DotEnv.site (m : Machine) : Location := m.place.location ++ [fileName]

def Machine.setting (m : Machine) (name v : Text) : Machine := { m with env := m.env.set (utf8 name) (utf8 v) }

def Machine.filing (m : Machine) (content : Bytes) : Machine :=
  { m with tree := m.tree.insert (DotEnv.site m) (.file false content) }

namespace DotEnv

/-- There is no `.env` file to be read, and in the current directory nothing of that name. -/
structure Unfiled (m : Machine) : Prop where
  sound : m.Sound
  here : m.place.lost = 0
  free : m.tree.node? (site m) = none
  nowhere : search m = .nowhere

theorem isEntryName_fileName : Path.IsEntryName fileName := by decide

variable {m : Machine} {content : Bytes}

theorem places_eq_cons (l : Location) : ∃ above, places l = Location.path l :: above := by
  refine ⟨(List.range l.length).reverse.map fun n => Location.path (l.take n), ?_⟩
  rw [places, List.range_succ, List.reverse_append, List.reverse_singleton, List.singleton_append, List.map_cons,
    List.take_length]

namespace Unfiled

variable (h : Unfiled m)
include h

theorem proper : Tree.Proper (Path.join (Location.path m.place.location) fileName) := by
  obtain ⟨above, habove⟩ := places_eq_cons m.place.location
  have hsearch := h.nowhere
  simp only [search, Machine.currentDir?, h.here, if_true, habove] at hsearch
  have herror : ∀ c, m.locate (Path.join (Location.path m.place.location) fileName) = .error c → c = .os .noEntry := by
    intro c hc
    refine Decidable.byContradiction fun hne => ?_
    rw [searchIn, hc] at hsearch
    simp [hne] at hsearch
  -- What is not proper fails in another way, and that would have ended the search.
  unfold Machine.locate Tree.locate at herror
  have hclean : ¬ (Path.join (Location.path m.place.location) fileName).elem 0 = true := fun hnul =>
    absurd (herror _ (if_pos hnul)) (by decide)
  have hnonempty : Path.join (Location.path m.place.location) fileName ≠ [] := fun hnil => by
    have hlast : (Path.join (Location.path m.place.location) fileName).getLast? = fileName.getLast? :=
      Move.getLast?_join isEntryName_fileName.toIsName
    rw [hnil] at hlast
    exact absurd hlast (by decide)
  refine ⟨by simpa using hclean, hnonempty, Nat.le_of_not_lt fun hlong => ?_⟩
  exact absurd (herror _ (by rw [if_neg hclean, if_neg hnonempty, if_pos hlong])) (by decide)

theorem proper_here : Tree.Proper (Location.path m.place.location) :=
  h.proper.of_join (List.cons_ne_nil _ _) (Move.isAbsolute_of_isName isEntryName_fileName.toIsName)

theorem place_eq : m.place = ⟨m.place.location, 0⟩ := by rw [← h.here]

theorem sound_filing (content : Bytes) : (m.filing content).Sound := by
  have hvacant : m.tree.Vacant (site m) := by
    refine ⟨h.free, by rw [site, List.dropLast_concat, h.sound.here], fun n hn => ?_⟩
    rcases List.mem_append.1 hn with hn | hn
    · exact h.sound.tree.named _ (by simp [h.sound.here]) n hn
    · exact List.mem_singleton.1 hn ▸ isEntryName_fileName
  refine ⟨h.sound.tree.insert hvacant trivial, ?_⟩
  have hne : m.place.location ≠ site m := fun he => by simpa [site] using congrArg List.length he
  exact (Tree.node?_insert_of_ne _ _ _ _ hne).trans h.sound.here

theorem tree_sameBut (content : Bytes) : m.tree.SameBut (site m) (m.filing content).tree :=
  ⟨h.free, ⟨content, Tree.node?_insert_self _ _ _ (Tree.ne_nil_of_node? h.free) h.free⟩,
    fun _ hk => Tree.node?_insert_of_ne _ _ _ _ hk⟩

theorem search_filing (content : Bytes) : search (m.filing content) = .found content := by
  have hdir : m.tree.locate true m.place (Location.path m.place.location) = .ok (.dir ⟨m.place.location, 0⟩) :=
    Tree.locate_path h.sound.tree h.sound.here h.proper_here
  obtain ⟨links, hlinks⟩ := Tree.locate_join hdir isEntryName_fileName.toIsName h.proper true
  have hfree : m.tree.locate true m.place (Path.join (Location.path m.place.location) fileName) =
      .ok (.free (site m)) := by
    have hpasses : Tree.Manner.Passes ⟨true, fun _ => true⟩ ⟨m.place.location, 0⟩ fileName :=
      ⟨isEntryName_fileName.short, rfl, rfl⟩
    rw [hlinks, Tree.walk_name_free hpasses h.free]
    rfl
  refine search_eq_found_iff.2 ⟨m.place.location.length, h.here, Nat.le_refl _, ?_, fun k hk hk' => ?_⟩
  · exact ⟨site m, false, by rw [Machine.filing, List.take_length]; exact Tree.locate_insert_file hfree⟩
  · exact absurd (Nat.lt_of_lt_of_le hk hk') (Nat.lt_irrefl _)

end Unfiled

end DotEnv

namespace Settings

open DotEnv Machine

variable {m : Machine} {name v : Text} {content : Bytes} {told : Prop}

/-- A file can be had for a variable: there is no `.env` file, the variable is not set, and the one line of the file assigns
the value. -/
structure Interchangeable (m : Machine) (name v : Text) (content : Bytes) : Prop extends Unfiled m where
  unset : m.env.get? (utf8 name) = none
  clean : '\x00' ∉ v
  assigned : Says m.env content name v

theorem interchangeable_assignmentLine (h : Unfiled m) (hname : IsVariable name) (hunset : m.env.get? (utf8 name) = none)
    (hclean : '\x00' ∉ v) (hunnamed : m.env.get? [] = none) :
    Interchangeable m name v (utf8 (assignmentLine name v ++ ['\n'])) :=
  ⟨h, hunset, hclean, says_assignmentLine hname hunnamed v⟩

/-- Two machines before settings are read, the one with the variable and the other with the file, that have told the same,
on standard error if `told`. -/
structure Unread (m : Machine) (name v : Text) (content : Bytes) (told : Prop) (a b : Machine) : Prop where
  set : (m.setting name v).Alike a
  filed : (m.filing content).Alike b
  out : b.out = a.out
  log : told → b.log = a.log ∧ b.err = a.err

/-- What is read on two machines: the same crash, or the same settings, and what is left is the same but for the file. -/
inductive SameRead (l : Location) (told : Prop) (a b : Machine) :
    Except Crash (Settings × Machine) → Except Crash (Settings × Machine) → Prop
  | crash (c : Crash) : SameRead l told a b (.error c) (.error c)
  | read (s : Settings) {after after' : Machine} (h : after.SameBut l told after') (hset : a.Alike after)
      (htree : after'.tree = b.tree) (hplace : after'.place = b.place) :
      SameRead l told a b (.ok (s, after)) (.ok (s, after'))

variable {a b : Machine}

theorem Unread.emit (h : Unread m name v content told a b) (e : Log.Event) :
    Unread m name v content told (a.emit e) (b.emit e) :=
  ⟨h.set.trans (alike_emit a e), h.filed.trans (alike_emit b e), by simpa using h.out,
    fun ht => told_emit (h.log ht) e⟩

theorem Unread.currentDir? (h : Unfiled m) (hp : Unread m name v content told a b) :
    a.currentDir? = some (Location.path m.place.location) ∧ b.currentDir? = some (Location.path m.place.location) :=
  ⟨hp.set.currentDir?.trans (if_pos h.here), hp.filed.currentDir?.trans (if_pos h.here)⟩

variable (h : Interchangeable m name v content)
include h

theorem load_of_set (hp : (m.setting name v).Alike a) : load a = .ok (a, none) := by
  have hset : DotEnv.search (m.setting name v) = DotEnv.search m := search_congr rfl rfl
  have hsearch : DotEnv.search a = .nowhere := by
    rw [hp.search, hset, h.nowhere]
  rw [load, hsearch]

theorem load_of_filed (hp : (m.filing content).Alike b) :
    load b = .ok ({ b with env := m.env.set (utf8 name) (utf8 v) }, none) := by
  have hsearch : DotEnv.search b = .found content := by
    rw [hp.search, h.search_filing]
  have hcontent : applyContent content b.env = .ok (m.env.set (utf8 name) (utf8 v), none) := by
    rw [hp.env]
    exact h.assigned.applyContent h.unset h.clean
  rw [load, hsearch]
  simp only [hcontent, Option.map_none]

theorem sameBut_loaded (hp : Unread m name v content told a b) :
    a.SameBut (site m) told { b with env := m.env.set (utf8 name) (utf8 v) } where
  tree := by
    rw [hp.set.tree, hp.filed.tree]
    exact h.tree_sameBut content
  place := hp.filed.place.trans hp.set.place.symm
  env := hp.set.env.symm
  out := hp.out
  log := hp.log
  sound := (h.sound_filing content).congr hp.filed.tree hp.filed.place

theorem read_filed (hp : Unread m name v content told a b) (base : Bytes) :
    SameRead (site m) told a b (read base a) (read base b) := by
  simp only [read, load_of_set h hp.set, load_of_filed h hp.filed, complain, hp.set.env, setting]
  cases (m.env.set (utf8 name) (utf8 v)).texts with
  | error bytes => exact .crash _
  | ok vars =>
    exact .read _ ((sameBut_loaded h hp).emit _) (alike_emit a _) (by rw [tree_emit]) (by rw [place_emit])

end Settings

end Slipway
