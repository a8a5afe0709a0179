import Slipway.Proofs.Machine.Walk
set_option autoImplicit false

namespace Slipway.Tree

/-- What stands in one tree stands in the other as it was. -/
def Within (t t' : Tree) : Prop := ∀ l node, t.node? l = some node → t'.node? l = some node

theorem Within.refl (t : Tree) : t.Within t := fun _ _ h => h

theorem within_insert {t : Tree} {l : Location} (node : Node) (h : t.node? l = none) : t.Within (t.insert l node) := by
  intro k other hk
  have hne : k ≠ l := by
    rintro rfl
    simp [h] at hk
  rw [node?_insert_of_ne t l k node hne, hk]

variable {t t' : Tree} {how : Manner} {onLink onLink' : Place → Bytes → List Move → Except OsError Spot} {p : Place}
  {moves : List Move} {s : Spot} {links : Nat} {follow : Bool} {path : Bytes}

theorem walkWith_within (ht : t.Within t') (hs : ∀ l, s ≠ .free l)
    (hlink : ∀ p target rest, onLink p target rest = .ok s → onLink' p target rest = .ok s)
    (h : walkWith t how onLink p moves = .ok s) : walkWith t' how onLink' p moves = .ok s := by
  induction moves generalizing p with
  | nil => exact h
  | cons move rest ih =>
    cases move with
    | stay => exact ih h
    | up => exact ih h
    | into n =>
      rw [walkWith_into (passes_of_walkWith h)]
      cases found_of_walkWith h with
      | free hn hr he => exact absurd he (hs _)
      | dir hn hw => simpa [ht _ _ hn] using ih hw
      | file executable data hn hr he => simp [ht _ _ hn, hr, he]
      | device hn hr he => simp [ht _ _ hn, hr, he]
      | lastLink target hn hr he =>
        rw [ht _ _ hn, he]
        exact if_pos hr
      | link target hn hr hw =>
        rw [ht _ _ hn]
        exact (if_neg hr).trans (hlink p target rest hw)

theorem walk_within (ht : t.Within t') (hs : ∀ l, s ≠ .free l) (h : t.walk how links p moves = .ok s) :
    t'.walk how links p moves = .ok s := by
  induction links generalizing p moves with
  | zero =>
    rw [walk] at h ⊢
    exact walkWith_within ht hs (fun _ _ _ hlink => by simp at hlink) h
  | succ links ih =>
    rw [walk] at h ⊢
    exact walkWith_within ht hs (fun _ _ _ hlink => ih hlink) h

theorem locate_within (ht : t.Within t') (hs : ∀ l, s ≠ .free l) (h : t.locate follow p path = .ok s) :
    t'.locate follow p path = .ok s := by
  rw [locate_eq (proper_of_locate h), walk_within ht hs (walk_of_locate h)]
  rfl

end Slipway.Tree
