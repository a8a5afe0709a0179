import Slipway.Machine.Basic
import Slipway.Proofs.Path.Lexical
set_option autoImplicit false

/-!
What can be relied on of a file system: whatever there is lies in a directory and has a name that a directory can hold,
and the current directory is there (`Machine.Sound`).  Then a walk ends at what stands where it says (`Tree.walk_stands`),
the path of a directory leads to that directory (`Tree.locate_path`), and a name in a directory to what stands there
(`Tree.locate_name`).
-/

namespace Slipway

/-- Whatever there is lies in a directory. -/
def Tree.Closed (t : Tree) : Prop := ∀ l n, t.node? (l ++ [n]) ≠ none → t.node? l = some .dir

theorem Tree.Closed.below {t : Tree} (ht : t.Closed) {l : Location} (hl : t.node? l = none) (more : List Bytes) :
    t.node? (l ++ more) = none := by
  induction more generalizing l with
  | nil => rwa [List.append_nil]
  | cons n more ih =>
    have hn : t.node? (l ++ [n]) = none := by
      cases h : t.node? (l ++ [n]) with
      | none => rfl
      | some node =>
        have hdir := ht l n (by simp [h])
        simp [hl] at hdir
    rw [← List.singleton_append, ← List.append_assoc]
    exact ih hn

theorem Tree.Closed.above {t : Tree} (ht : t.Closed) {l : Location} {n : Bytes} {more : List Bytes}
    (h : t.node? (l ++ n :: more) ≠ none) : t.node? l = some .dir := by
  refine ht l n fun hn => h ?_
  rw [← List.singleton_append, ← List.append_assoc]
  exact ht.below hn more

structure Path.IsEntryName (n : Bytes) : Prop extends Path.IsName n where
  clean : 0 ∉ n
  short : n.length ≤ Tree.nameLimit

instance (n : Bytes) : Decidable (Path.IsEntryName n) :=
  decidable_of_iff ((n ≠ [] ∧ Path.slash ∉ n ∧ n ≠ Path.dot ∧ n ≠ Path.dotDot) ∧ 0 ∉ n ∧ n.length ≤ Tree.nameLimit)
    ⟨fun h => ⟨⟨h.1.1, h.1.2.1, h.1.2.2.1, h.1.2.2.2⟩, h.2.1, h.2.2⟩,
      fun h => ⟨⟨h.nonempty, h.noSlash, h.notDot, h.notDotDot⟩, h.clean, h.short⟩⟩

def Node.IsClean : Node → Prop
  | .link target => 0 ∉ target
  | _ => True

instance : (node : Node) → Decidable node.IsClean
  | .link target => inferInstanceAs (Decidable (0 ∉ target))
  | .dir => isTrue trivial
  | .file _ _ => isTrue trivial
  | .device => isTrue trivial

structure Tree.Sound (t : Tree) : Prop where
  closed : t.Closed
  named : ∀ l, t.node? l ≠ none → ∀ n ∈ l, Path.IsEntryName n
  clean : ∀ l node, t.node? l = some node → node.IsClean

/-- A file system and a current directory as there can be.  A current directory that has been removed is one below a
directory that is there. -/
structure Machine.Sound (m : Machine) : Prop where
  tree : m.tree.Sound
  here : m.tree.node? m.place.location = some .dir

namespace Tree

theorem mem_of_node? {t : Tree} {l : Location} {node : Node} (hl : l ≠ []) (h : t.node? l = some node) :
    (l, node) ∈ t.entries := by
  rw [node?, if_neg hl] at h
  obtain ⟨before, after, hentries, -⟩ := List.lookup_eq_some_iff.1 h
  rw [hentries]
  exact List.mem_append_right _ List.mem_cons_self

theorem node?_of_mem {t : Tree} {e : Location × Node} (h : e ∈ t.entries) : t.node? e.1 ≠ none := by
  by_cases hl : e.1 = []
  · simp [node?, hl]
  · rw [node?, if_neg hl]
    intro hnone
    simpa using List.lookup_eq_none_iff.1 hnone e h

theorem sound_of_entries {t : Tree}
    (h : ∀ e ∈ t.entries, t.node? e.1.dropLast = some .dir ∧ (∀ n ∈ e.1, Path.IsEntryName n) ∧ e.2.IsClean) :
    t.Sound := by
  have hentry {l : Location} (hl : l ≠ []) (hthere : t.node? l ≠ none) : ∃ node, (l, node) ∈ t.entries := by
    obtain ⟨node, hnode⟩ := Option.ne_none_iff_exists'.1 hthere
    exact ⟨node, mem_of_node? hl hnode⟩
  constructor
  case closed =>
    intro l n hn
    obtain ⟨node, he⟩ := hentry (by simp) hn
    have hdir := (h _ he).1
    rwa [List.dropLast_concat] at hdir
  case named =>
    intro l hl n hn
    obtain ⟨node, he⟩ := hentry (List.ne_nil_of_mem hn) hl
    exact (h _ he).2.1 n hn
  case clean =>
    intro l node hnode
    by_cases hl : l = []
    · rw [node?, if_pos hl] at hnode
      obtain rfl := Option.some.inj hnode
      trivial
    · exact (h _ (mem_of_node? hl hnode)).2.2

theorem remove_insert {t : Tree} {l : Location} (ht : t.Closed) (node : Node) (hl : t.node? l = none) :
    (t.insert l node).remove l = t := by
  have hself : l.isPrefixOf l = true := List.isPrefixOf_iff_prefix.2 (List.prefix_refl l)
  have hkept : t.entries.filter (fun e => !l.isPrefixOf e.1) = t.entries := by
    refine List.filter_eq_self.2 fun e he => ?_
    rw [Bool.not_eq_true']
    refine Bool.eq_false_iff.2 fun hpre => ?_
    obtain ⟨more, hmore⟩ := List.isPrefixOf_iff_prefix.1 hpre
    exact node?_of_mem he (hmore ▸ ht.below hl more)
  simp [remove, insert, List.filter_append, hkept, hself]

end Tree

/-- What stands where a walk has come to; `lost` bounds how far a directory may be below those that are there. -/
def Spot.Stands (t : Tree) (follow : Bool) (lost : Nat) : Spot → Prop
  | .dir p => t.node? p.location = some .dir ∧ p.lost ≤ lost
  | .file l executable data => t.node? l = some (.file executable data)
  | .link l target => t.node? l = some (.link target) ∧ follow = false
  | .device l => t.node? l = some .device
  | .free l => t.node? l = none

def Spot.location : Spot → Location
  | .dir p => p.location
  | .file l _ _ | .link l _ | .device l | .free l => l

theorem Spot.Stands.node?_ne_none {t : Tree} {follow : Bool} {lost : Nat} {s : Spot} (h : s.Stands t follow lost)
    (hfree : ∀ l, s ≠ .free l) : t.node? s.location ≠ none := by
  cases s with
  | dir p => simp [location, h.1]
  | file l executable data => simp [location, show t.node? l = _ from h]
  | link l target => simp [location, h.1]
  | device l => simp [location, show t.node? l = _ from h]
  | free l => exact absurd rfl (hfree l)

namespace Tree

variable {t : Tree} {how : Manner} {onLink : Place → Bytes → List Move → Except OsError Spot} {p q : Place}
  {n path : Bytes} {names : List Bytes} {moves rest : List Move} {s : Spot} {l : Location} {links lost : Nat}
  {follow : Bool}

theorem Closed.up (ht : t.Closed) (hp : t.node? p.location = some .dir) : t.node? p.up.location = some .dir := by
  unfold Place.up
  split
  · rcases List.eq_nil_or_concat p.location with hnil | ⟨l, n, hl⟩
    · simp [hnil, node?]
    · rw [List.concat_eq_append] at hl
      rw [hl] at hp ⊢
      rw [List.dropLast_concat]
      exact ht l n (by simp [hp])
  · exact hp

theorem lost_up (p : Place) : p.up.lost ≤ p.lost := by
  unfold Place.up
  split
  · exact Nat.zero_le _
  · exact Nat.sub_le _ _

theorem walkWith_stands (ht : t.Closed)
    (hlink : ∀ p target rest, t.node? p.location = some .dir → p.lost ≤ lost → onLink p target rest = .ok s →
      s.Stands t how.follow lost)
    (hp : t.node? p.location = some .dir) (hlost : p.lost ≤ lost) (h : walkWith t how onLink p moves = .ok s) :
    s.Stands t how.follow lost := by
  induction moves generalizing p with
  | nil =>
    rw [walkWith, Except.ok.injEq] at h
    subst h
    exact ⟨hp, hlost⟩
  | cons move rest ih =>
    cases move with
    | stay => exact ih hp hlost h
    | up => exact ih (ht.up hp) (Nat.le_trans (lost_up p) hlost) h
    | into n =>
      -- A walk through a link is another walk, for which `hlink` speaks.
      cases found_of_walkWith h with
      | free hn hr hs => rwa [hs]
      | dir hn hw => exact ih (p := p.down n) hn hlost hw
      | file executable data hn hr hs => rwa [hs]
      | device hn hr hs => rwa [hs]
      | lastLink target hn hr hs =>
        rw [hs]
        exact ⟨hn, by simpa using (Bool.and_eq_true_iff.1 hr).2⟩
      | link target hn hr hw => exact hlink p target rest hp hlost hw

theorem origin_stands (hp : t.node? p.location = some .dir) (path : Bytes) :
    t.node? (origin p path).location = some .dir := by
  unfold origin
  split
  · rfl
  · exact hp

theorem lost_origin (p : Place) (path : Bytes) : (origin p path).lost ≤ p.lost := by
  unfold origin
  split
  · exact Nat.zero_le _
  · exact Nat.le_refl _

theorem walk_stands (ht : t.Closed) (hp : t.node? p.location = some .dir) (hlost : p.lost ≤ lost)
    (h : t.walk how links p moves = .ok s) : s.Stands t how.follow lost := by
  induction links generalizing p moves with
  | zero =>
    rw [walk] at h
    exact walkWith_stands ht (fun _ _ _ _ _ hlink => by simp at hlink) hp hlost h
  | succ links ih =>
    rw [walk] at h
    exact walkWith_stands ht (fun q target rest hq hqlost hlink =>
      ih (origin_stands hq target) (Nat.le_trans (lost_origin q target) hqlost) hlink) hp hlost h

theorem walkWith_names (ht : t.Sound) (hlost : p.lost = 0) (hd : t.node? (p.location ++ names) = some .dir) :
    walkWith t ⟨follow, fun _ => true⟩ onLink p (names.map .into ++ rest) =
      walkWith t ⟨follow, fun _ => true⟩ onLink ⟨p.location ++ names, 0⟩ rest := by
  induction names generalizing p with
  | nil =>
    obtain ⟨location, lost⟩ := p
    obtain rfl : lost = 0 := hlost
    simp
  | cons n names ih =>
    have hthere : t.node? (p.location ++ n :: names) ≠ none := by simp [hd]
    have hdown : t.node? ((p.down n).location ++ names) = some .dir := by simpa [Place.down] using hd
    have hdir : t.node? (p.location ++ [n]) = some .dir := by
      cases names with
      | nil => exact hd
      | cons n' names =>
        have hbelow : t.node? (p.location ++ [n] ++ n' :: names) ≠ none := by simpa using hthere
        exact ht.closed.above hbelow
    have hpasses : Manner.Passes ⟨follow, fun _ => true⟩ p n :=
      ⟨(ht.named _ hthere n (by simp)).short, rfl, hlost⟩
    rw [List.map_cons, List.cons_append, walkWith_into hpasses, hdir]
    simpa [Place.down] using ih (p := p.down n) hlost hdown

theorem walk_names (ht : t.Sound) (hlost : p.lost = 0) (hd : t.node? (p.location ++ names) = some .dir) :
    t.walk ⟨follow, fun _ => true⟩ links p (names.map .into ++ rest) =
      t.walk ⟨follow, fun _ => true⟩ links ⟨p.location ++ names, 0⟩ rest := by
  cases links <;>
    · rw [walk]
      exact walkWith_names ht hlost hd

theorem filterMap_ofSegment_of_isName (h : ∀ n ∈ names, Path.IsName n) :
    names.filterMap Move.ofSegment = names.map .into := by
  induction names with
  | nil => rfl
  | cons n names ih =>
    rw [List.filterMap_cons_some (Move.ofSegment_of_isName (h n List.mem_cons_self)),
      ih fun m hm => h m (List.mem_cons_of_mem n hm), List.map_cons]

theorem ofPath_of_isName (hn : Path.IsName n) : Move.ofPath n = [.into n] := by
  rw [Move.ofPath, Move.segments_of_isName hn, if_neg (Move.getLast?_ne_slash hn), List.append_nil,
    filterMap_ofSegment_of_isName (by simpa using hn), List.map_singleton]

theorem ofPath_ofNames (h : ∀ n ∈ names, Path.IsName n) :
    Move.ofPath (Path.ofNames names) = names.map .into ++ if names = [] then [.stay] else [] := by
  cases names with
  | nil => rfl
  | cons n names =>
    have hne : Path.ofNames (n :: names) ≠ [Path.slash] := by
      cases hn : n with
      | nil => exact absurd hn (h n (by simp)).nonempty
      | cons b n => cases names <;> simp [Path.ofNames, joinWith]
    rw [Move.ofPath, Path.segments_ofNames (by simp) fun n hn => (h n hn).noSlash,
      if_neg ((Path.isNormal_ofNames h).noTrailingSlash hne), List.filterMap_cons_none rfl,
      filterMap_ofSegment_of_isName h, if_neg (by simp)]

theorem locate_path (ht : t.Sound) (hl : t.node? l = some .dir) (hp : Proper (Location.path l)) :
    t.locate follow q (Location.path l) = .ok (.dir ⟨l, 0⟩) := by
  have hnames : ∀ n ∈ l, Path.IsName n := fun n hn => (ht.named l (by simp [hl]) n hn).toIsName
  have hpath : Location.path l = Path.ofNames l := rfl
  have horigin : origin q (Location.path l) = .root := rfl
  rw [locate_eq hp, horigin, hpath, ofPath_ofNames hnames, walk_names (p := .root) ht rfl hl]
  split <;> rfl

theorem walk_name (hp : Manner.Passes ⟨true, fun _ => true⟩ q n) (hs : s.Stands t true 0)
    (hl : s.location = q.location ++ [n]) (hfree : ∀ l, s ≠ .free l) :
    t.walk ⟨true, fun _ => true⟩ links q [.into n] = .ok s := by
  cases s with
  | dir p =>
    obtain ⟨hdir, hlost⟩ := hs
    obtain rfl : q.down n = p := by
      obtain ⟨location, lost⟩ := p
      obtain rfl : lost = 0 := Nat.le_zero.1 hlost
      obtain rfl : location = q.location ++ [n] := hl
      rw [Place.down, hp.standing]
    have hnode : t.node? (q.location ++ [n]) = some .dir := hdir
    cases links <;> rw [walk, walkWith_into hp, hnode] <;> rfl
  | file l executable data =>
    obtain rfl : l = q.location ++ [n] := hl
    have hnode : t.node? (q.location ++ [n]) = some (.file executable data) := hs
    cases links <;> rw [walk, walkWith_into hp, hnode] <;> rfl
  | device l =>
    obtain rfl : l = q.location ++ [n] := hl
    have hnode : t.node? (q.location ++ [n]) = some .device := hs
    cases links <;> rw [walk, walkWith_into hp, hnode] <;> rfl
  | link l target => exact absurd hs.2 (by simp)
  | free l => exact absurd rfl (hfree l)

theorem locate_name (hq : q.lost = 0) (hn : Path.IsEntryName n) (hs : s.Stands t true 0)
    (hl : s.location = q.location ++ [n]) (hfree : ∀ l, s ≠ .free l) : t.locate true q n = .ok s := by
  have hproper : Proper n := ⟨hn.clean, hn.nonempty, Nat.le_trans hn.short (by decide)⟩
  have horigin : origin q n = q := by simp [origin, Move.isAbsolute_of_isName hn.toIsName]
  rw [locate_eq hproper, horigin, ofPath_of_isName hn.toIsName, walk_name ⟨hn.short, rfl, hq⟩ hs hl hfree]
  rfl

end Tree

end Slipway
