import Slipway.Run.Perform
set_option autoImplicit false

namespace Slipway

namespace Machine

/-- What neither printing nor logging changes. -/
structure Quiet {α : Type} (view : Machine → α) : Prop where
  printLine (m : Machine) (t : Text) : view (m.printLine t) = view m
  emit (m : Machine) (e : Log.Event) : view (m.emit e) = view m

theorem quiet_tree : Quiet tree := ⟨tree_printLine, tree_emit⟩

theorem quiet_place : Quiet place := ⟨place_printLine, place_emit⟩

theorem quiet_env : Quiet env := ⟨env_printLine, env_emit⟩

theorem changeDir_eq_ok_iff {m m' : Machine} {path : Bytes} :
    m.changeDir path = .ok m' ↔ ∃ p, m.locate path = .ok (.dir p) ∧ m' = { m with place := p } := by
  unfold changeDir
  cases m.locate path with
  | error c => simp
  | ok s => cases s <;> simp [eq_comm]

theorem changeDir_eq_error {m : Machine} {path : Bytes} (h : ∀ p, m.locate path ≠ .ok (.dir p)) :
    ∃ c, m.changeDir path = .error c := by
  cases hc : m.changeDir path with
  | error c => exact ⟨c, rfl⟩
  | ok m' =>
    obtain ⟨p, hp, -⟩ := changeDir_eq_ok_iff.1 hc
    exact absurd hp (h p)

theorem isAbsolute_currentDir {m : Machine} {here : Bytes} (h : m.currentDir? = some here) :
    Path.isAbsolute here = true := by
  unfold currentDir? at h
  split at h
  · rw [← Option.some.inj h]
    rfl
  · contradiction

end Machine

namespace Run

variable {m m' : Machine} {dir : Bytes} {w : WayBack}

theorem enter_eq_ok {here : Bytes} {p : Place} (hh : m.currentDir? = some here) (hp : m.locate dir = .ok (.dir p)) :
    ∃ e, enter m dir = .ok (⟨here⟩, Machine.emit { m with place := p } e) := by
  have hc : m.changeDir dir = .ok { m with place := p } := Machine.changeDir_eq_ok_iff.2 ⟨p, hp, rfl⟩
  unfold enter
  simp only [hh, hc]
  exact ⟨_, rfl⟩

theorem of_enter_eq_ok (h : enter m dir = .ok (w, m')) :
    ∃ p e, m.currentDir? = some w.path ∧ m.locate dir = .ok (.dir p) ∧
      m' = Machine.emit { m with place := p } e := by
  cases hh : m.currentDir? with
  | none => simp [enter, hh] at h
  | some here =>
    cases hc : m.changeDir dir with
    | error c => simp [enter, hh, hc] at h
    | ok moved =>
      obtain ⟨p, hp, rfl⟩ := Machine.changeDir_eq_ok_iff.1 hc
      obtain ⟨e, he⟩ := enter_eq_ok hh hp
      rw [he] at h
      obtain ⟨rfl, rfl⟩ := Prod.mk.inj (Except.ok.inj h)
      exact ⟨p, e, rfl, hp, rfl⟩

theorem place_leave {p : Place} (h : m.locate w.path = .ok (.dir p)) : (leave m w).place = p := by
  have hc : m.changeDir w.path = .ok { m with place := p } := Machine.changeDir_eq_ok_iff.2 ⟨p, h, rfl⟩
  simp [leave, hc]

@[simp] theorem tree_leave (m : Machine) (w : WayBack) : (leave m w).tree = m.tree := by
  unfold leave
  split
  case h_1 moved hc =>
    obtain ⟨p, -, rfl⟩ := Machine.changeDir_eq_ok_iff.1 hc
    simp
  case h_2 => simp

end Run

end Slipway
