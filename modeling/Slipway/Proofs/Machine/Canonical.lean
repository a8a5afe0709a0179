import Slipway.Proofs.Machine.Sound
set_option autoImplicit false

/-!
Canonical paths.  They are found by another walk than the one along a path (`Tree.resolve`, with a limit on where it may
go), which comes to the same object where both come to one; and on a sound machine that object is there.
-/

namespace Slipway

namespace Tree

variable {t : Tree} {onLink : Place → Bytes → List Move → Except OsError Spot} {p : Place} {path : Bytes}
  {moves : List Move} {s : Spot} {links : Nat} {follow : Bool}

theorem walkWith_reaching {onLink' : Place → Bytes → List Move → Except OsError Spot} {reaches : Location → Bool}
    (hlink : ∀ p target rest, onLink p target rest = .ok s → onLink' p target rest = .ok s)
    (h : walkWith t ⟨follow, reaches⟩ onLink p moves = .ok s) :
    walkWith t ⟨follow, fun _ => true⟩ onLink' p moves = .ok s := by
  induction moves generalizing p with
  | nil => exact h
  | cons move rest ih =>
    cases move with
    | stay => exact ih h
    | up => exact ih h
    | into n =>
      have hp := passes_of_walkWith h
      have hp' : Manner.Passes ⟨follow, fun _ => true⟩ p n := ⟨hp.short, rfl, hp.standing⟩
      rw [walkWith_into hp']
      cases found_of_walkWith h with
      | free hn hr hs => simp [hn, hr, hs]
      | dir hn hw => simpa [hn] using ih hw
      | file executable data hn hr hs => simp [hn, hr, hs]
      | device hn hr hs => simp [hn, hr, hs]
      | lastLink target hn hr hs =>
        rw [hn, hs]
        exact if_pos hr
      | link target hn hr hw =>
        rw [hn]
        exact (if_neg hr).trans (hlink p target rest hw)

theorem walk_reaching {reaches : Location → Bool} (h : t.walk ⟨follow, reaches⟩ links p moves = .ok s) :
    t.walk ⟨follow, fun _ => true⟩ links p moves = .ok s := by
  induction links generalizing p moves with
  | zero =>
    rw [walk] at h ⊢
    exact walkWith_reaching (fun _ _ _ hlink => by simp at hlink) h
  | succ links ih =>
    rw [walk] at h ⊢
    exact walkWith_reaching (fun _ _ _ hlink => ih hlink) h

theorem walk_of_resolve (h : t.resolve p path = .ok s) :
    t.walk ⟨true, fun l => (Location.path l).length ≤ pathLimit⟩ linkLimit (origin p path) (Move.ofPath path) = .ok s := by
  unfold resolve at h
  split at h
  · cases h
  · split at h
    · cases h
    · exact eq_ok_of_mapError h

end Tree

namespace Machine

variable {m : Machine} {path root : Bytes}

theorem eq_of_resolve {spot spot' : Spot} (h : m.tree.resolve m.place path = .ok spot)
    (h' : m.locate path = .ok spot') : spot' = spot := by
  have hwalk := Tree.walk_reaching (Tree.walk_of_resolve h)
  exact Except.ok.inj ((Tree.walk_of_locate h').symm.trans hwalk)

theorem resolve_of_canonical (h : m.canonical path = .ok root) :
    ∃ spot, m.tree.resolve m.place path = .ok spot ∧ root = Location.path spot.location ∧ ∀ l, spot ≠ .free l := by
  unfold canonical at h
  split at h
  · cases h
  · cases hr : m.tree.resolve m.place path with
    | error c =>
      rw [hr] at h
      cases h
    | ok spot =>
      rw [hr] at h
      cases spot with
      | free l => cases h
      | _ => exact ⟨_, rfl, (Except.ok.inj h).symm, by simp⟩

theorem standing_of_canonical (h : m.canonical path = .ok root) : (Tree.origin m.place path).lost = 0 := by
  unfold Tree.origin
  split
  · rfl
  next habs =>
    unfold canonical isAdrift at h
    split at h
    · cases h
    next hnot =>
      refine Nat.eq_zero_of_not_pos fun hlost => ?_
      by_cases hnul : 0 ∈ path
      · simp [Tree.resolve, hnul] at h
      · exact hnot (by simp [hlost, habs, hnul])

theorem Sound.stands_of_canonical (hm : m.Sound) {spot : Spot} (h : m.canonical path = .ok root)
    (hr : m.tree.resolve m.place path = .ok spot) : spot.Stands m.tree true 0 :=
  Tree.walk_stands hm.tree.closed (Tree.origin_stands hm.here path) (Nat.le_of_eq (standing_of_canonical h))
    (Tree.walk_of_resolve hr)

end Machine

end Slipway
