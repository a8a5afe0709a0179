import Slipway.Machine.Search
import Slipway.Proofs.Machine.Changes
import Slipway.Proofs.Run.Enter
set_option autoImplicit false

/-!
One plain file more.  Two trees that are the same, but that the one has a file where the other has nothing
(`Tree.SameBut`), answer the same to every path that does not lead to that file or try to go through it
(`Tree.SameBut.walk`).  So on two such machines the same is a directory and the same can be executed, and what changes
neither that file nor the way to it leaves two such machines (`Machine.SameBut`).
-/

namespace Slipway

/-- The second tree has a plain file at `l`, and the first has nothing there. -/
structure Tree.SameBut (l : Location) (t t' : Tree) : Prop where
  free : t.node? l = none
  file : ∃ data, t'.node? l = some (.file false data)
  other : ∀ k, k ≠ l → t'.node? k = t.node? k

/-- What one path comes to in two such trees: the same, or else it leads to the place of the file, or it tries to go on
from there. -/
inductive Tree.Parted {ε : Type} (l : Location) (err : OsError → ε) : Except ε Spot → Except ε Spot → Prop
  | same (r : Except ε Spot) : Parted l err r r
  | led (data : Bytes) : Parted l err (.ok (.free l)) (.ok (.file l false data))
  | through : Parted l err (.error (err .noEntry)) (.error (err .notADirectory))

namespace Tree

variable {t t' : Tree} {how : Manner} {onLink onLink' : Place → Bytes → List Move → Except OsError Spot} {p q : Place}
  {moves : List Move} {l k : Location} {links : Nat} {follow : Bool} {path n : Bytes} {node : Node}

theorem Parted.mapError {x y : Except OsError Spot} (h : Parted l id x y) :
    Parted l Cause.os (x.mapError .os) (y.mapError .os) := by
  cases h with
  | same r => exact .same _
  | led data => exact .led data
  | through => exact .through

theorem walkWith_of_not_passes (h : ¬ how.Passes p n) (rest : List Move) :
    walkWith t how onLink p (.into n :: rest) = walkWith t' how onLink' p (.into n :: rest) := by
  unfold walkWith
  by_cases hname : (decide (nameLimit < n.length) || !how.reaches (p.location ++ [n])) = true
  · rw [if_pos hname, if_pos hname]
  · by_cases hlost : 0 < p.lost
    · rw [if_neg hname, if_neg hname, if_pos hlost, if_pos hlost]
    · simp only [Bool.or_eq_true, decide_eq_true_eq, Bool.not_eq_true', not_or, Bool.not_eq_false] at hname
      exact absurd ⟨Nat.not_lt.1 hname.1, hname.2, Nat.eq_zero_of_not_pos hlost⟩ h

theorem locate_of_not_proper (hp : ¬ Proper path) : t'.locate follow p path = t.locate follow p path := by
  unfold Tree.locate
  by_cases hclean : path.elem 0 = true
  · rw [if_pos hclean, if_pos hclean]
  · by_cases hne : path = []
    · rw [if_neg hclean, if_neg hclean, if_pos hne, if_pos hne]
    · by_cases hshort : pathLimit < path.length
      · rw [if_neg hclean, if_neg hclean, if_neg hne, if_neg hne, if_pos hshort, if_pos hshort]
      · exact absurd ⟨by simpa using hclean, hne, Nat.not_lt.1 hshort⟩ hp

theorem walk_entry {links' : Nat} {reaches : Location → Bool}
    (hn : t'.node? (p.location ++ [n]) = t.node? (p.location ++ [n])) :
    t'.walk ⟨false, reaches⟩ links' p [.into n] = t.walk ⟨false, reaches⟩ links p [.into n] := by
  have hstep (onLink onLink' : Place → Bytes → List Move → Except OsError Spot) :
      t'.walkWith ⟨false, reaches⟩ onLink' p [.into n] = t.walkWith ⟨false, reaches⟩ onLink p [.into n] := by
    by_cases hp : Manner.Passes ⟨false, reaches⟩ p n
    · rw [walkWith_into hp, walkWith_into hp, hn]
      cases t.node? (p.location ++ [n]) with
      | none => rfl
      | some node => cases node <;> rfl
    · exact walkWith_of_not_passes hp []
  cases links <;> cases links' <;> exact hstep _ _

namespace SameBut

variable (h : t.SameBut l t')
include h

theorem walkWith (hlink : ∀ p target rest, Parted l id (onLink p target rest) (onLink' p target rest)) (p : Place)
    (moves : List Move) : Parted l id (t.walkWith how onLink p moves) (t'.walkWith how onLink' p moves) := by
  induction moves generalizing p with
  | nil => exact .same _
  | cons move rest ih =>
    cases move with
    | stay => exact ih p
    | up => exact ih p.up
    | into n =>
      by_cases hp : how.Passes p n
      case neg =>
        rw [walkWith_of_not_passes hp rest]
        exact .same _
      rw [walkWith_into hp, walkWith_into hp]
      by_cases hl : p.location ++ [n] = l
      · obtain ⟨data, hfile⟩ := h.file
        rw [hl, h.free, hfile]
        dsimp only
        split
        · exact .led data
        · exact .through
      · rw [h.other _ hl]
        cases t.node? (p.location ++ [n]) with
        | none => exact .same _
        | some node =>
          cases node with
          | dir => exact ih (p.down n)
          | file => exact .same _
          | device => exact .same _
          | link target =>
            dsimp only
            split
            · exact .same _
            · exact hlink p target rest

theorem walk (how : Manner) (links : Nat) (p : Place) (moves : List Move) :
    Parted l id (t.walk how links p moves) (t'.walk how links p moves) := by
  induction links generalizing p moves with
  | zero =>
    rw [Tree.walk, Tree.walk]
    exact h.walkWith (fun _ _ _ => .same _) p moves
  | succ links ih =>
    rw [Tree.walk, Tree.walk]
    exact h.walkWith (fun _ _ _ => ih _ _) p moves

theorem locate (follow : Bool) (p : Place) (path : Bytes) :
    Parted l Cause.os (t.locate follow p path) (t'.locate follow p path) := by
  unfold Tree.locate
  split
  · exact .same _
  split
  · exact .same _
  split
  · exact .same _
  · exact (h.walk _ _ _ _).mapError

theorem dir_iff : t'.node? k = some .dir ↔ t.node? k = some .dir := by
  by_cases hk : k = l
  · obtain ⟨data, hfile⟩ := h.file
    rw [hk, hfile, h.free]
    simp
  · rw [h.other k hk]

theorem node?_of_some (hk : t.node? k = some node) : t'.node? k = some node := by
  rw [h.other k, hk]
  rintro rfl
  cases h.free.symm.trans hk

theorem sound (ht : t'.Sound) : t.Sound := by
  have hthere {k : Location} (hk : t.node? k ≠ none) : t'.node? k ≠ none := by
    obtain ⟨node, hnode⟩ := Option.ne_none_iff_exists'.1 hk
    simp [h.node?_of_some hnode]
  constructor
  case closed => exact fun k n hn => h.dir_iff.1 (ht.closed k n (hthere hn))
  case named => exact fun k hk => ht.named k (hthere hk)
  case clean => exact fun k node hk => ht.clean k node (h.node?_of_some hk)

theorem locate_entry (ht : t'.Sound) (hk : t.node? k = some .dir) (hn : Path.IsName n) (hne : k ++ [n] ≠ l) (p : Place) :
    t'.locate false p (Path.join (Location.path k) n) = t.locate false p (Path.join (Location.path k) n) := by
  by_cases hproper : Proper (Path.join (Location.path k) n)
  case neg => exact locate_of_not_proper hproper
  have hdir : Proper (Location.path k) := hproper.of_join (List.cons_ne_nil _ _) (Move.isAbsolute_of_isName hn)
  obtain ⟨links, hlinks⟩ := locate_join (q := ⟨k, 0⟩) (p := p) (locate_path (h.sound ht) hk hdir) hn hproper false
  obtain ⟨links', hlinks'⟩ := locate_join (q := ⟨k, 0⟩) (p := p) (locate_path ht (h.dir_iff.2 hk) hdir) hn hproper false
  rw [hlinks, hlinks', walk_entry (h.other _ hne)]

theorem insert (hk : k ≠ l) (hfree : t.node? k = none) (node : Node) : (t.insert k node).SameBut l (t'.insert k node) := by
  have hfree' : t'.node? k = none := (h.other k hk).trans hfree
  constructor
  case free => rw [node?_insert_of_ne _ _ _ _ hk.symm, h.free]
  case file => rw [node?_insert_of_ne _ _ _ _ hk.symm]; exact h.file
  case other =>
    intro j hj
    by_cases hjk : j = k
    · rw [hjk, node?_insert_self _ _ _ (ne_nil_of_node? hfree) hfree,
        node?_insert_self _ _ _ (ne_nil_of_node? hfree) hfree']
    · rw [node?_insert_of_ne _ _ _ _ hjk, node?_insert_of_ne _ _ _ _ hjk, h.other j hj]

end SameBut

end Tree

theorem Machine.told_emit {m m' : Machine} (h : m'.log = m.log ∧ m'.err = m.err) (e : Log.Event) :
    (m'.emit e).log = (m.emit e).log ∧ (m'.emit e).err = (m.emit e).err := by
  obtain ⟨hlog, herr⟩ := h
  unfold emit
  rw [hlog]
  split <;> simp [printError, hlog, herr]

/-- Sound machines that are the same but for the file at `l` and, unless `told`, for the log and what it has told. -/
structure Machine.SameBut (l : Location) (told : Prop) (m m' : Machine) : Prop where
  tree : m.tree.SameBut l m'.tree
  place : m'.place = m.place
  env : m'.env = m.env
  out : m'.out = m.out
  log : told → m'.log = m.log ∧ m'.err = m.err
  sound : m'.Sound

namespace Machine.SameBut

variable {l : Location} {told : Prop} {m m' : Machine} {p : Place} {path : Bytes} (h : m.SameBut l told m')
include h

theorem sound_left : m.Sound := ⟨h.tree.sound h.sound.tree, by rw [← h.tree.dir_iff, ← h.place]; exact h.sound.here⟩

theorem currentDir? : m'.currentDir? = m.currentDir? := by rw [Machine.currentDir?, Machine.currentDir?, h.place]

theorem locate (path : Bytes) : Tree.Parted l Cause.os (m.locate path) (m'.locate path) := by
  rw [Machine.locate, Machine.locate, h.place]
  exact h.tree.locate true m.place path

theorem locate_dir_iff : m'.locate path = .ok (.dir p) ↔ m.locate path = .ok (.dir p) := by
  have hparted := h.locate path
  generalize m.locate path = found at hparted ⊢
  generalize m'.locate path = found' at hparted ⊢
  cases hparted <;> simp

theorem isDir (path : Bytes) : m'.isDir path = m.isDir path := by
  have hparted := h.locate path
  unfold Machine.isDir
  generalize m.locate path = found at hparted ⊢
  generalize m'.locate path = found' at hparted ⊢
  cases hparted <;> rfl

theorem isProgram (path : Bytes) : m'.isProgram path = m.isProgram path := by
  have hparted := h.locate path
  unfold Machine.isProgram
  generalize m.locate path = found at hparted ⊢
  generalize m'.locate path = found' at hparted ⊢
  cases hparted <;> rfl

theorem findProgram? (program : Bytes) : m'.findProgram? program = m.findProgram? program := by
  have hcandidates : m'.candidates program = m.candidates program := by
    unfold Machine.candidates Machine.expandHome
    rw [h.currentDir?, h.env]
  rw [Machine.findProgram?, Machine.findProgram?, hcandidates, funext h.isProgram]

theorem printLine (t : Text) : (m.printLine t).SameBut l told (m'.printLine t) := by
  refine ⟨h.tree, h.place, h.env, ?_, h.log, h.sound.printLine t⟩
  rw [Machine.printLine, Machine.print, Machine.printLine, Machine.print, h.out]

theorem emit (e : Log.Event) : (m.emit e).SameBut l told (m'.emit e) := by
  constructor
  case tree => simpa using h.tree
  case place => simpa using h.place
  case env => simpa using h.env
  case out => simpa using h.out
  case sound => exact h.sound.emit e
  case log => exact fun ht => Machine.told_emit (h.log ht) e

theorem changeDir (hp : m.locate path = .ok (.dir p)) :
    m.changeDir path = .ok { m with place := p } ∧ m'.changeDir path = .ok { m' with place := p } ∧
      SameBut l told { m with place := p } { m' with place := p } := by
  have hmoved : m'.changeDir path = .ok { m' with place := p } := changeDir_eq_ok_iff.2 ⟨p, h.locate_dir_iff.2 hp, rfl⟩
  exact ⟨changeDir_eq_ok_iff.2 ⟨p, hp, rfl⟩, hmoved, h.tree, rfl, h.env, h.out, h.log, h.sound.changeDir hmoved⟩

end Machine.SameBut

end Slipway
