import Slipway.Proofs.Machine.SameBut
import Slipway.Proofs.Task.Handed
import Slipway.Proofs.Task.Preparation
set_option autoImplicit false

/-!
Two runs in lockstep, on machines that are the same but for one file.  Steps that the file makes no difference to
(`Handover.Overlooks`) keep the machines so, one after the other (`Run.inOrder_sameBut`); and since the file is in the
directory that the run comes back to, so do going there and back (`perform_sameBut`).
-/

namespace Slipway

variable {σ α : Type} {l : Location} {told : Prop} {m m' : Machine}

section Runs

variable {ex : Runner σ} {steps : List Step} {state : σ}

def Handover.first (ex : Runner σ) (s : Step) (state : σ) (m : Machine) : Handover σ :=
  let given := (state, m.printLine (Run.echo s))
  ⟨s, given, (ex s given.1 given.2).1, (ex s given.1 given.2).2⟩

def Handover.next (h : Handover σ) : σ × Machine := (h.left.1, h.left.2.printLine (Run.timing h.step h.reply.elapsed))

def Run.record (ex : Runner σ) : List Step → σ → Machine → List (Handover σ)
  | [], _, _ => []
  | s :: rest, state, m =>
    let h := Handover.first ex s state m
    h :: if h.reply.result.toOption = some 0 then record ex rest h.next.1 h.next.2 else []

theorem Run.inOrder_cons (ex : Runner σ) (s : Step) (rest : List Step) (state : σ) (m : Machine) :
    inOrder ex (s :: rest) state m =
      let h := Handover.first ex s state m
      match h.reply.result with
      | .error f => (.error f, h.left)
      | .ok n =>
        if n = 0 then inOrder ex rest h.next.1 h.next.2
        else (.error (.stepFailed s.name s.shown n), h.left.1, h.left.2.emit ⟨.debug, logTarget, "step failed".toList,
            [("step".toList, quoted s.name), ("code".toList, intText n)]⟩) := by
  rcases hx : ex s state (m.printLine (echo s)) with ⟨⟨f | n, d⟩, left⟩ <;>
    simp only [inOrder, Handover.first, Handover.next, hx]

theorem Run.inOrder_record (ex : Runner σ) (steps : List Step) (state : σ) (before : List (Handover σ)) (m : Machine) :
    inOrder ex.traced steps (state, before) m =
      ((inOrder ex steps state m).1, ((inOrder ex steps state m).2.1, before ++ record ex steps state m),
        (inOrder ex steps state m).2.2) := by
  induction steps generalizing state before m with
  | nil => simp [inOrder, record]
  | cons s rest ih =>
    rw [inOrder_cons, inOrder_cons, record]
    have hfirst : Handover.first ex.traced s (state, before) m =
        let h := Handover.first ex s state m
        ⟨h.step, ((state, before), h.given.2), h.reply, ((h.left.1, before ++ [h]), h.left.2)⟩ := rfl
    rw [hfirst]
    dsimp only [Handover.next]
    generalize Handover.first ex s state m = h
    cases hr : h.reply.result with
    | error f => simp [Except.toOption]
    | ok n =>
      by_cases hn : n = 0
      · simp [hn, ih, Except.toOption]
      · simp [hn, Except.toOption]

/-- The file makes no difference to corresponding steps.  Where they are given the same, but for the file, they are answered
alike, and what is left is the same but for the file. -/
def Handover.Overlooks (l : Location) (told : Prop) (h h' : Handover σ) : Prop :=
  h'.step = h.step → h'.given.1 = h.given.1 → h.given.2.SameBut l told h'.given.2 →
    h'.reply = h.reply ∧ h'.left.1 = h.left.1 ∧ h.left.2.SameBut l told h'.left.2

structure InLockstep (l : Location) (told : Prop) (run run' : α × (σ × List (Handover σ)) × Machine) : Prop where
  answer : run'.1 = run.1
  state : run'.2.1.1 = run.2.1.1
  steps : run'.2.1.2.map Handover.step = run.2.1.2.map Handover.step
  machine : run.2.2.SameBut l told run'.2.2

def Overlooked (l : Location) (told : Prop) (run run' : α × (σ × List (Handover σ)) × Machine) : Prop :=
  ∀ pair ∈ run.2.1.2.zip run'.2.1.2, pair.1.Overlooks l told pair.2

def Runner.Overlooks (l : Location) (told : Prop) (ex : Runner σ) : Prop :=
  ∀ s state m m', m.SameBut l told m' → (ex s state m').1 = (ex s state m).1 ∧
    (ex s state m').2.1 = (ex s state m).2.1 ∧ (ex s state m).2.2.SameBut l told (ex s state m').2.2

theorem Runner.Overlooks.overlooked (hex : ex.Overlooks l told)
    {run run' : α × (σ × List (Handover σ)) × Machine}
    (hrun : ∀ h ∈ run.2.1.2, ex h.step h.given.1 h.given.2 = (h.reply, h.left))
    (hrun' : ∀ h ∈ run'.2.1.2, ex h.step h.given.1 h.given.2 = (h.reply, h.left)) : Overlooked l told run run' := by
  rintro ⟨h, h'⟩ hpair hstep hstate hgiven
  obtain ⟨hh, hh'⟩ := List.of_mem_zip hpair
  have hanswered := hex h.step h.given.1 h.given.2 h'.given.2 hgiven
  rwa [hrun h hh, ← hstep, ← hstate, hrun' h' hh'] at hanswered

theorem Runner.rehearsed_overlooks : rehearsed.Overlooks l told := by
  intro s cues m m' h
  cases cues with
  | nil => exact ⟨rfl, rfl, h⟩
  | cons cue rest =>
    cases cue with
    | code n => exact ⟨rfl, rfl, h⟩
    | startFailure t => exact ⟨rfl, rfl, h⟩
    | changeDir path n =>
      refine ⟨rfl, rfl, ?_⟩
      by_cases hd : ∃ p, m.locate path = .ok (.dir p)
      · obtain ⟨p, hp⟩ := hd
        obtain ⟨hgo, hgo', hthere⟩ := h.changeDir hp
        simpa only [rehearsed, hgo, hgo'] using hthere
      · obtain ⟨c, hstay⟩ := Machine.changeDir_eq_error fun p hp => hd ⟨p, hp⟩
        obtain ⟨c', hstay'⟩ := Machine.changeDir_eq_error fun p hp => hd ⟨p, h.locate_dir_iff.1 hp⟩
        simpa only [rehearsed, hstay, hstay'] using h

theorem Run.inOrder_sameBut (h : m.SameBut l told m')
    (hover : ∀ pair ∈ (record ex steps state m).zip (record ex steps state m'), pair.1.Overlooks l told pair.2) :
    (inOrder ex steps state m').1 = (inOrder ex steps state m).1 ∧
      (inOrder ex steps state m').2.1 = (inOrder ex steps state m).2.1 ∧
      (record ex steps state m').map Handover.step = (record ex steps state m).map Handover.step ∧
      (inOrder ex steps state m).2.2.SameBut l told (inOrder ex steps state m').2.2 := by
  -- On the steps; what carries it is that the machines are the same but for the file, and the states are one.
  induction steps generalizing state m m' with
  | nil => exact ⟨rfl, rfl, rfl, h⟩
  | cons s rest ih =>
    obtain ⟨hreply, hstate, hleft⟩ := hover _ List.mem_cons_self rfl rfl (h.printLine (echo s))
    rw [inOrder_cons, inOrder_cons]
    rw [record, record] at hover ⊢
    have hstep : (Handover.first ex s state m').step = (Handover.first ex s state m).step := rfl
    dsimp only at hstep hreply hstate hleft hover ⊢
    generalize Handover.first ex s state m = first at hstep hreply hstate hleft hover ⊢
    generalize Handover.first ex s state m' = first' at hstep hreply hstate hleft hover ⊢
    rw [hreply] at hover ⊢
    cases hr : first.reply.result with
    | error f => simp [Except.toOption, hstep, hstate, hleft]
    | ok n =>
      by_cases hn : n = 0
      · have hnext : first'.next.1 = first.next.1 ∧ first.next.2.SameBut l told first'.next.2 := by
          rw [Handover.next, Handover.next, hstep, hreply]
          exact ⟨hstate, hleft.printLine _⟩
        simp only [hr, hn, Except.toOption, if_true, hnext.1] at hover ⊢
        obtain ⟨hanswer, hstates, hsteps, hmachine⟩ :=
          ih hnext.2 fun pair hpair => hover pair (List.mem_cons_of_mem _ hpair)
        exact ⟨hanswer, hstates, by rw [List.map_cons, List.map_cons, hstep, hsteps], hmachine⟩
      · simp [Except.toOption, hn, hstep, hstate, hleft.emit]

end Runs

section Directory

variable {ex : Runner σ} {steps : List Step} {state : σ} {here : Location} {n dir : Bytes}

/-- The way back leads back, for the file is in the directory that it leads to. -/
theorem Run.leave_sameBut (h : m.SameBut (here ++ [n]) told m') (hproper : Tree.Proper (Location.path here)) :
    (leave m ⟨Location.path here⟩).SameBut (here ++ [n]) told (leave m' ⟨Location.path here⟩) := by
  obtain ⟨data, hfile⟩ := h.tree.file
  have hdir : m.tree.node? here = some .dir := h.tree.dir_iff.1 (h.sound.tree.closed here n (by simp [hfile]))
  have hlocate : m.locate (Location.path here) = .ok (.dir ⟨here, 0⟩) := Tree.locate_path h.sound_left.tree hdir hproper
  obtain ⟨hback, hback', hthere⟩ := h.changeDir hlocate
  simp only [leave, hback, hback']
  exact hthere.emit _

theorem Run.enter_sameBut (h : m.SameBut l told m') (hplace : m.place = ⟨here, 0⟩) (hd : m.isDir dir = true) :
    ∃ inside inside', enter m dir = .ok (⟨Location.path here⟩, inside) ∧
      enter m' dir = .ok (⟨Location.path here⟩, inside') ∧ inside.SameBut l told inside' := by
  obtain ⟨p, hlocate⟩ := Machine.isDir_iff.1 hd
  have hhere : m.currentDir? = some (Location.path here) := by rw [Machine.currentDir?, hplace]; rfl
  have hhere' : m'.currentDir? = some (Location.path here) := by rw [h.currentDir?, hhere]
  obtain ⟨hgo, hgo', hthere⟩ := h.changeDir hlocate
  simp only [enter, hhere, hhere', hgo, hgo']
  exact ⟨_, _, rfl, rfl, hthere.emit _⟩

variable (h : m.SameBut (here ++ [n]) told m') (hplace : m.place = ⟨here, 0⟩)
  (hproper : Tree.Proper (Location.path here))
include h hplace hproper

theorem perform_sameBut (hd : m.isDir dir = true)
    (hover : Overlooked (here ++ [n]) told (perform ex.traced dir steps (state, []) m)
      (perform ex.traced dir steps (state, []) m')) :
    InLockstep (here ++ [n]) told (perform ex.traced dir steps (state, []) m)
      (perform ex.traced dir steps (state, []) m') := by
  obtain ⟨inside, inside', henter, henter', hinside⟩ := Run.enter_sameBut h hplace hd
  simp only [perform, henter, henter', Run.inOrder_record, List.nil_append] at hover ⊢
  obtain ⟨hanswer, hstate, hsteps, hmachine⟩ := Run.inOrder_sameBut hinside hover
  exact ⟨hanswer, hstate, hsteps, Run.leave_sameBut hmachine hproper⟩

end Directory

theorem Errand.carryOut_sameBut {ex : Runner σ} {state : σ} {here : Location} {n : Bytes}
    {ready ready' : Except Failure (Errand α) × Machine} (hready : ready'.1 = ready.1)
    (h : ready.2.SameBut (here ++ [n]) told ready'.2) (hplace : ready.2.place = ⟨here, 0⟩)
    (hproper : Tree.Proper (Location.path here)) (hd : ∀ e, ready.1 = .ok e → ready.2.isDir e.directory = true)
    (hover : Overlooked (here ++ [n]) told (carryOut (perform ex.traced) (state, []) ready)
      (carryOut (perform ex.traced) (state, []) ready')) :
    InLockstep (here ++ [n]) told (carryOut (perform ex.traced) (state, []) ready)
      (carryOut (perform ex.traced) (state, []) ready') := by
  obtain ⟨result, m⟩ := ready
  obtain ⟨result', m'⟩ := ready'
  obtain rfl : result' = result := hready
  cases result' with
  | error f => exact ⟨rfl, rfl, rfl, h⟩
  | ok e =>
    obtain ⟨hseen, -, -⟩ := carryOut_rest (perform ex.traced) (state, []) e m
    obtain ⟨hseen', -, -⟩ := carryOut_rest (perform ex.traced) (state, []) e m'
    rw [Overlooked, hseen, hseen'] at hover
    obtain ⟨hanswer, hstate, hsteps, hmachine⟩ := perform_sameBut h hplace hproper (hd e rfl) hover
    simp only [carryOut]
    generalize perform ex.traced e.directory e.steps (state, []) m = run at hanswer hstate hsteps hmachine ⊢
    generalize perform ex.traced e.directory e.steps (state, []) m' = run' at hanswer hstate hsteps hmachine ⊢
    obtain ⟨result, seen, m⟩ := run
    obtain ⟨result', seen', m'⟩ := run'
    obtain rfl : result' = result := hanswer
    cases result' with
    | error f => exact ⟨rfl, hstate, hsteps, hmachine⟩
    | ok _ => exact ⟨rfl, hstate, hsteps, hmachine.printLine _⟩

end Slipway
