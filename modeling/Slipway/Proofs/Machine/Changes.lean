import Slipway.Machine.Files
import Slipway.Proofs.Machine.Sound
set_option autoImplicit false

namespace Slipway

theorem mem_of_mem_splitWhere {α : Type} {sep : α → Bool} {xs piece : List α} {x : α} (hx : x ∈ piece)
    (h : piece ∈ splitWhere sep xs) : x ∈ xs := by
  induction xs generalizing piece with
  | nil =>
    rw [splitWhere, List.mem_singleton] at h
    rwa [h] at hx
  | cons y ys ih =>
    unfold splitWhere at h
    split at h
    · rcases List.mem_cons.1 h with rfl | h
      · cases hx
      · exact List.mem_cons_of_mem y (ih hx h)
    · cases hs : splitWhere sep ys with
      | nil => exact absurd hs (splitWhere_ne_nil sep ys)
      | cons p ps =>
        rw [hs] at h ih
        rcases List.mem_cons.1 h with rfl | h
        · rcases List.mem_cons.1 hx with rfl | hx
          · exact List.mem_cons_self
          · exact List.mem_cons_of_mem y (ih hx List.mem_cons_self)
        · exact List.mem_cons_of_mem y (ih hx (List.mem_cons_of_mem p h))

namespace Move

def IsClean : Move → Prop
  | .into n => Path.IsName n ∧ 0 ∉ n
  | _ => True

theorem isClean_of_mem_ofPath {path : Bytes} (h : 0 ∉ path) : ∀ move ∈ ofPath path, move.IsClean := by
  intro move hmem
  rcases List.mem_append.1 hmem with hmem | hmem
  · obtain ⟨s, hs, hmove⟩ := List.mem_filterMap.1 hmem
    unfold ofSegment at hmove
    repeat' split at hmove
    · cases hmove
    · cases hmove
      trivial
    · cases hmove
      trivial
    next hnil hdot hup =>
      cases hmove
      exact ⟨⟨hnil, Path.not_mem_segments hs, hdot, hup⟩, fun h0 => h (mem_of_mem_splitWhere h0 hs)⟩
  · split at hmem
    · rw [List.mem_singleton.1 hmem]
      trivial
    · cases hmem

end Move

namespace Tree

variable {t : Tree} {how : Manner} {onLink : Place → Bytes → List Move → Except OsError Spot} {p : Place}
  {path : Bytes} {moves : List Move} {l k : Location} {node : Node} {links : Nat} {follow : Bool}

structure Vacant (t : Tree) (l : Location) : Prop where
  free : t.node? l = none
  parent : t.node? l.dropLast = some .dir
  named : ∀ n ∈ l, Path.IsEntryName n

theorem walkWith_vacant (ht : t.Sound)
    (hlink : ∀ p target rest, t.node? p.location = some .dir → 0 ∉ target → (∀ move ∈ rest, move.IsClean) →
      onLink p target rest = .ok (.free l) → t.Vacant l)
    (hp : t.node? p.location = some .dir) (hmoves : ∀ move ∈ moves, move.IsClean)
    (h : walkWith t how onLink p moves = .ok (.free l)) : t.Vacant l := by
  induction moves generalizing p with
  | nil => simp [walkWith] at h
  | cons move rest ih =>
    obtain ⟨hmove, hrest⟩ := List.forall_mem_cons.1 hmoves
    cases move with
    | stay => exact ih hp hrest h
    | up => exact ih (ht.closed.up hp) hrest h
    | into n =>
      have hpasses := passes_of_walkWith h
      cases found_of_walkWith h with
      | free hn hr hs =>
        obtain rfl := Spot.free.inj hs
        refine ⟨hn, by rwa [List.dropLast_concat], fun m hm => ?_⟩
        rcases List.mem_append.1 hm with hm | hm
        · exact ht.named p.location (by simp [hp]) m hm
        · rw [List.mem_singleton.1 hm]
          exact ⟨hmove.1, hmove.2, hpasses.short⟩
      | dir hn hw => exact ih hn hrest hw
      | link target hn hr hw => exact hlink p target rest hp (ht.clean _ _ hn) hrest hw
      | _ => contradiction

theorem walk_vacant (ht : t.Sound) (hp : t.node? p.location = some .dir) (hmoves : ∀ move ∈ moves, move.IsClean)
    (h : t.walk how links p moves = .ok (.free l)) : t.Vacant l := by
  induction links generalizing p moves with
  | zero =>
    rw [walk] at h
    exact walkWith_vacant ht (fun _ _ _ _ _ _ hlink => by simp at hlink) hp hmoves h
  | succ links ih =>
    rw [walk] at h
    refine walkWith_vacant ht (fun q target rest hq htarget hrest hlink => ?_) hp hmoves h
    refine ih (origin_stands hq target) (fun move hmove => ?_) hlink
    exact (List.mem_append.1 hmove).elim (Move.isClean_of_mem_ofPath htarget move) (hrest move)

theorem locate_vacant (ht : t.Sound) (hp : t.node? p.location = some .dir)
    (h : t.locate follow p path = .ok (.free l)) : t.Vacant l :=
  walk_vacant ht (origin_stands hp path) (Move.isClean_of_mem_ofPath (proper_of_locate h).clean) (walk_of_locate h)

theorem locate_stands {s : Spot} (ht : t.Sound) (hp : t.node? p.location = some .dir)
    (h : t.locate follow p path = .ok s) : ∃ lost, s.Stands t follow lost :=
  ⟨_, walk_stands ht.closed (origin_stands hp path) (Nat.le_refl _) (walk_of_locate h)⟩

theorem Sound.insert (ht : t.Sound) (hl : t.Vacant l) (hnode : node.IsClean) : (t.insert l node).Sound := by
  have hself : (t.insert l node).node? l = some node := node?_insert_self t l node (ne_nil_of_node? hl.free) hl.free
  have hother {k : Location} (hk : k ≠ l) : (t.insert l node).node? k = t.node? k := node?_insert_of_ne t l k node hk
  have hdir {k : Location} (hk : t.node? k = some .dir) : (t.insert l node).node? k = some .dir := by
    have hne : k ≠ l := by
      rintro rfl
      cases hl.free.symm.trans hk
    rw [hother hne, hk]
  constructor
  case closed =>
    intro k n hn
    by_cases hk : k ++ [n] = l
    · have hparent := hl.parent
      rw [← hk, List.dropLast_concat] at hparent
      exact hdir hparent
    · rw [hother hk] at hn
      exact hdir (ht.closed k n hn)
  case named =>
    intro k hthere
    by_cases hk : k = l
    · rw [hk]
      exact hl.named
    · rw [hother hk] at hthere
      exact ht.named k hthere
  case clean =>
    intro k node' hnode'
    by_cases hk : k = l
    · rw [hk, hself] at hnode'
      exact Option.some.inj hnode' ▸ hnode
    · rw [hother hk] at hnode'
      exact ht.clean k node' hnode'

theorem node?_replace (t : Tree) (l k : Location) (node : Node) (hk : k ≠ []) :
    (t.replace l node).node? k = if k = l then (t.node? k).map fun _ => node else t.node? k := by
  simp only [node?, hk, if_false, replace]
  induction t.entries with
  | nil => simp
  | cons e es ih =>
    obtain ⟨m, old⟩ := e
    by_cases hm : m = l <;> by_cases hkm : k = m
    · subst hm hkm
      simp
    · have hb : (k == m) = false := beq_false_of_ne hkm
      subst hm
      simpa [List.lookup_cons, hb, hkm] using ih
    · subst hkm
      simp [hm]
    · have hb : (k == m) = false := beq_false_of_ne hkm
      simpa [List.lookup_cons, hb, hm] using ih

theorem Sound.replace {old : Node} (ht : t.Sound) (hl : t.node? l = some old) (hold : old ≠ .dir)
    (hnode : node.IsClean) : (t.replace l node).Sound := by
  have hthere {k : Location} (hk : k ≠ []) (h : (t.replace l node).node? k ≠ none) : t.node? k ≠ none := by
    rw [node?_replace t l k node hk] at h
    split at h
    · exact fun hnone => h (by rw [hnone, Option.map_none])
    · exact h
  have hdir {k : Location} (hk : t.node? k = some .dir) : (t.replace l node).node? k = some .dir := by
    by_cases hnil : k = []
    · rw [hnil]
      rfl
    · rw [node?_replace t l k node hnil, if_neg, hk]
      rintro rfl
      exact hold (Option.some.inj (hl.symm.trans hk))
  constructor
  case closed => exact fun k n hn => hdir (ht.closed k n (hthere (by simp) hn))
  case named =>
    intro k hk n hn
    exact ht.named k (hthere (List.ne_nil_of_mem hn) hk) n hn
  case clean =>
    intro k node' hnode'
    by_cases hnil : k = []
    · subst hnil
      obtain rfl := Option.some.inj hnode'
      trivial
    · rw [node?_replace t l k node hnil] at hnode'
      split at hnode'
      · obtain ⟨_, -, rfl⟩ := Option.map_eq_some_iff.1 hnode'
        exact hnode
      · exact ht.clean k node' hnode'

theorem node?_remove_of_some (h : (t.remove l).node? k = some node) : t.node? k = some node := by
  by_cases hk : k = []
  · subst hk
    exact h
  · rw [node?_remove t l k hk] at h
    split at h
    · cases h
    · exact h

theorem node?_remove_of_not_below (h : ¬ l <+: k) : (t.remove l).node? k = t.node? k := by
  by_cases hk : k = []
  · subst hk
    rfl
  · rw [node?_remove t l k hk, if_neg]
    rwa [List.isPrefixOf_iff_prefix]

theorem Sound.remove (ht : t.Sound) (l : Location) : (t.remove l).Sound := by
  have hthere {k : Location} (h : (t.remove l).node? k ≠ none) : t.node? k ≠ none := by
    obtain ⟨node, hnode⟩ := Option.ne_none_iff_exists'.1 h
    simp [node?_remove_of_some hnode]
  constructor
  case closed =>
    intro k n hn
    have hdir := ht.closed k n (hthere hn)
    -- The root is a directory in every tree, even in one from which it has been removed.
    by_cases hk : k = []
    · rw [hk]
      rfl
    · have hnot : ¬ l <+: k := fun hpre => hn (by
        rw [node?_remove t l _ (by simp), if_pos (List.isPrefixOf_iff_prefix.2 (hpre.trans (List.prefix_append k [n])))])
      rwa [node?_remove_of_not_below hnot]
  case named => exact fun k hk => ht.named k (hthere hk)
  case clean => exact fun k node hnode => ht.clean k node (node?_remove_of_some hnode)

end Tree

namespace Machine.Sound

variable {m m' : Machine} {path target : Bytes} {l : Location} {node : Node} {follow executable : Bool} {data : Bytes}

theorem put (hm : m.Sound) (hl : m.tree.locate follow m.place path = .ok (.free l)) (hnode : node.IsClean) :
    Sound { m with tree := m.tree.insert l node } := by
  have hvacant := Tree.locate_vacant hm.tree hm.here hl
  have hne : m.place.location ≠ l := by
    intro he
    cases (he ▸ hm.here).symm.trans hvacant.free
  exact ⟨hm.tree.insert hvacant hnode, by rw [Tree.node?_insert_of_ne _ _ _ _ hne, hm.here]⟩

theorem rewrite {executable' : Bool} {data' : Bytes} (hm : m.Sound)
    (hl : m.tree.locate follow m.place path = .ok (.file l executable data)) :
    Sound { m with tree := m.tree.replace l (.file executable' data') } := by
  obtain ⟨lost, hstands⟩ := Tree.locate_stands hm.tree hm.here hl
  have hfile : m.tree.node? l = some (.file executable data) := hstands
  refine ⟨hm.tree.replace hfile (by simp) trivial, ?_⟩
  by_cases hroot : m.place.location = []
  · rw [hroot]
    rfl
  · have hne : m.place.location ≠ l := by
      intro he
      cases (he ▸ hm.here).symm.trans hfile
    rw [Tree.node?_replace _ _ _ _ hroot, if_neg hne, hm.here]

theorem takeAway (hm : m.Sound) (hl : m.tree.node? l = some node) (hnode : node ≠ .dir) :
    Sound { m with tree := m.tree.remove l } := by
  have hnot : ¬ l <+: m.place.location := by
    rintro ⟨more, hmore⟩
    cases more with
    | nil =>
      rw [List.append_nil] at hmore
      exact hnode (Option.some.inj (hl.symm.trans (hmore ▸ hm.here)))
    | cons n more =>
      have hthere : m.tree.node? (l ++ n :: more) ≠ none := by simp [hmore, hm.here]
      exact hnode (Option.some.inj (hl.symm.trans (hm.tree.closed.above hthere)))
  exact ⟨hm.tree.remove l, by rw [Tree.node?_remove_of_not_below hnot, hm.here]⟩

/-- One that is inside a directory that is removed falls back to the directory that it lay in. -/
theorem takeAwayDir (hm : m.Sound) (hl : m.tree.node? l = some .dir) (hroot : l ≠ []) :
    Sound { m with tree := m.tree.remove l, place := placeAfter m.place l } := by
  refine ⟨hm.tree.remove l, ?_⟩
  unfold placeAfter
  split
  · obtain hnil | ⟨d, n, hd⟩ := List.eq_nil_or_concat l
    · exact absurd hnil hroot
    · rw [List.concat_eq_append] at hd
      subst hd
      have hparent : m.tree.node? d = some .dir := hm.tree.closed d n (by simp [hl])
      have hnot : ¬ d ++ [n] <+: d := by
        intro hpre
        have hlength := hpre.length_le
        rw [List.length_append, List.length_singleton] at hlength
        omega
      rw [List.dropLast_concat, Tree.node?_remove_of_not_below hnot, hparent]
  next hnot =>
    rw [List.isPrefixOf_iff_prefix] at hnot
    rw [Tree.node?_remove_of_not_below hnot, hm.here]

theorem makeDir (hm : m.Sound) (h : m.makeDir path = .ok m') : m'.Sound := by
  unfold Machine.makeDir at h
  split at h
  next hl =>
    cases h
    exact hm.put hl trivial
  · cases h
  · cases h

theorem makeDirs (hm : m.Sound) (path : Bytes) : (m.makeDirs path).Sound := by
  unfold Machine.makeDirs
  induction ancestors path.length path generalizing m with
  | nil => exact hm
  | cons p rest ih =>
    rw [List.foldl_cons]
    refine ih ?_
    split
    next h => exact hm.makeDir h
    · exact hm

theorem writeFile (hm : m.Sound) (h : m.writeFile path executable data = .ok m') : m'.Sound := by
  unfold Machine.writeFile at h
  split at h
  next hl =>
    cases h
    exact hm.put hl trivial
  next hl =>
    cases h
    exact hm.rewrite hl
  · cases h
    exact hm
  · cases h
  · cases h

theorem appendFile (hm : m.Sound) (h : m.appendFile path data = .ok m') : m'.Sound := by
  unfold Machine.appendFile at h
  split at h
  next hl =>
    cases h
    exact hm.put hl trivial
  next hl =>
    cases h
    exact hm.rewrite hl
  · cases h
    exact hm
  · cases h
  · cases h

theorem makeLink (hm : m.Sound) (htarget : 0 ∉ target) (h : m.makeLink path target = .ok m') : m'.Sound := by
  unfold Machine.makeLink at h
  split at h
  · cases h
  · split at h
    next hl =>
      cases h
      exact hm.put hl htarget
    · cases h
    · cases h

theorem removeAll (hm : m.Sound) (h : m.removeAll path = .ok m') : m'.Sound := by
  unfold Machine.removeAll at h
  split at h
  next p hl =>
    obtain ⟨lost, hdir, -⟩ := Tree.locate_stands hm.tree hm.here hl
    split at h
    · cases h
    next hguard =>
      cases h
      exact hm.takeAwayDir hdir fun hroot => hguard (by simp [hroot])
  next hl =>
    obtain ⟨lost, hfile⟩ := Tree.locate_stands hm.tree hm.here hl
    cases h
    exact hm.takeAway hfile (by simp)
  next hl =>
    obtain ⟨lost, hlink, -⟩ := Tree.locate_stands hm.tree hm.here hl
    cases h
    exact hm.takeAway hlink (by simp)
  next hl =>
    obtain ⟨lost, hdevice⟩ := Tree.locate_stands hm.tree hm.here hl
    cases h
    exact hm.takeAway hdevice (by simp)
  · cases h
  · cases h

theorem changeDir (hm : m.Sound) (h : m.changeDir path = .ok m') : m'.Sound := by
  unfold Machine.changeDir at h
  split at h
  next p hl =>
    obtain ⟨lost, hdir, -⟩ := Tree.locate_stands hm.tree hm.here hl
    cases h
    exact ⟨hm.tree, hdir⟩
  · cases h
  · cases h
  · cases h

theorem congr (htree : m'.tree = m.tree) (hplace : m'.place = m.place) (hm : m.Sound) : m'.Sound :=
  ⟨htree ▸ hm.tree, by rw [htree, hplace, hm.here]⟩

theorem printLine (hm : m.Sound) (t : Text) : (m.printLine t).Sound := hm.congr (tree_printLine m t) (place_printLine m t)

theorem emit (hm : m.Sound) (e : Log.Event) : (m.emit e).Sound := hm.congr (tree_emit m e) (place_emit m e)

end Machine.Sound

end Slipway
