import Slipway.Proofs.Machine.Changes
import Slipway.Proofs.Task.Packing
set_option autoImplicit false

namespace Slipway

variable {σ α : Type} {ex : Runner σ} {m m' : Machine}

def Runner.IsSound (ex : Runner σ) : Prop := ∀ s state m, m.Sound → (ex s state m).2.2.Sound

theorem Runner.isSound_rehearsed : Runner.IsSound rehearsed := by
  intro s cues m hm
  match cues with
  | [] => exact hm
  | .code n :: rest => exact hm
  | .startFailure t :: rest => exact hm
  | .changeDir path n :: rest =>
    dsimp only [rehearsed]
    split
    next h => exact hm.changeDir h
    · exact hm

namespace Run

theorem sound_enter {dir : Bytes} {w : WayBack} (hm : m.Sound) (h : enter m dir = .ok (w, m')) : m'.Sound := by
  obtain ⟨p, event, -, hp, rfl⟩ := of_enter_eq_ok h
  have hmoved : m.changeDir dir = .ok { m with place := p } := Machine.changeDir_eq_ok_iff.2 ⟨p, hp, rfl⟩
  exact (hm.changeDir hmoved).emit event

theorem sound_leave (hm : m.Sound) (w : WayBack) : (leave m w).Sound := by
  unfold leave
  split
  next h => exact (hm.changeDir h).emit _
  · exact hm.emit _

theorem sound_inOrder (hex : ex.IsSound) (steps : List Step) (state : σ) (hm : m.Sound) :
    (inOrder ex steps state m).2.2.Sound := by
  induction steps generalizing state m with
  | nil => exact hm
  | cons s rest ih =>
    have hleft := hex s state _ (hm.printLine (echo s))
    unfold inOrder
    generalize ex s state (m.printLine (echo s)) = left at hleft ⊢
    obtain ⟨⟨f | n, d⟩, state', m'⟩ := left
    · exact hleft
    · dsimp only
      split
      · exact ih state' (hleft.printLine _)
      · exact hleft.emit _

end Run

theorem sound_perform (hex : ex.IsSound) (dir : Bytes) (steps : List Step) (state : σ) (hm : m.Sound) :
    (perform ex dir steps state m).2.2.Sound := by
  unfold perform
  split
  · exact hm
  next h => exact Run.sound_leave (Run.sound_inOrder hex steps state (Run.sound_enter hm h)) _

theorem Errand.sound_carryOut (hex : ex.IsSound) (state : σ) {ready : Except Failure (Errand α) × Machine}
    (hready : ready.2.Sound) : (carryOut (perform ex) state ready).2.2.Sound := by
  obtain ⟨f | e, m⟩ := ready
  · exact hready
  · obtain ⟨-, hplace, htree⟩ := carryOut_rest (perform ex) state e m
    exact (sound_perform hex e.directory e.steps state hready).congr htree hplace

theorem Install.sound_prepare (s : Settings) (r : InstallRequest) (hm : m.Sound) : (prepare s r m).2.Sound := by
  have hchecked {result : Except Failure Unit} {checked : Machine}
      (hc : Tools.requireFor s (plan s r).steps m = (result, checked)) : checked.Sound :=
    hm.congr (Machine.quiet_tree.requireFor hc) (Machine.quiet_place.requireFor hc)
  unfold prepare
  split
  · exact hm
  · split
    case h_1 hc => exact hchecked hc
    case h_2 hc =>
      split
      · exact hchecked hc
      next hp =>
        unfold prepareDir at hp
        split at hp
        · cases hp
          exact hchecked hc
        · split at hp
          · cases hp
          next hmade =>
            cases hp
            exact ((hchecked hc).makeDir hmade).printLine _

theorem Pack.sound_prepare (s : Settings) (r : PackRequest) (today : Date) (hm : m.Sound) :
    (prepare s r today m).2.Sound :=
  have hlike := alike_prepare hm.tree.closed s r today
  hm.congr hlike.tree hlike.place

theorem sound_install (s : Settings) (r : InstallRequest) (hex : ex.IsSound) (state : σ) (hm : m.Sound) :
    (install s r ex state m).2.2.Sound := by
  rw [install_eq]
  exact Errand.sound_carryOut hex state (Install.sound_prepare s r hm)

theorem sound_pack (s : Settings) (r : PackRequest) (today : Date) (hex : ex.IsSound) (state : σ) (hm : m.Sound) :
    (pack s r today ex state m).2.2.Sound := by
  rw [pack_eq]
  exact Errand.sound_carryOut hex state (Pack.sound_prepare s r today hm)

end Slipway
