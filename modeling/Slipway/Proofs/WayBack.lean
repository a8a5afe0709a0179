import Slipway.Proofs.Task.Errand
set_option autoImplicit false

/-!
Coming back.  A way back is a path, and between its taking and its use anything may happen: other directories are
entered and left, files and directories come and go, and a runner may go where it likes.  Main statement
(`way_back_leads_back`): whenever the path still names the directory that was current when it was recorded, that is the
directory in which one is afterwards.  Ways back are used in the reverse order of their recording; which of them a drop
uses is a matter of counting (`Held.ways_run`).
-/

namespace Slipway

/-- What can happen while ways back are held: a directory is entered, the way back taken last is gone and given up, or
the machine changes in any other way. -/
inductive Act
  | push (dir : Bytes)
  | drop
  | other (change : Machine → Machine)

structure Held where
  machine : Machine
  ways : List WayBack

namespace Held

def step (h : Held) : Act → Held
  | .push dir =>
    match Run.enter h.machine dir with
    | .ok (w, m) => ⟨m, w :: h.ways⟩
    | .error _ => h
  | .drop =>
    match h.ways with
    | w :: ways => ⟨Run.leave h.machine w, ways⟩
    | [] => h
  | .other change => { h with machine := change h.machine }

def run (h : Held) (acts : List Act) : Held := acts.foldl step h

@[simp] theorem run_nil (h : Held) : h.run [] = h := rfl

@[simp] theorem run_cons (h : Held) (a : Act) (acts : List Act) : h.run (a :: acts) = (h.step a).run acts := rfl

theorem step_push_ok {h : Held} {dir : Bytes} {w : WayBack} {m : Machine} (he : Run.enter h.machine dir = .ok (w, m)) :
    h.step (.push dir) = ⟨m, w :: h.ways⟩ := by simp [step, he]

theorem step_push_error {h : Held} {dir : Bytes} {f : Failure} (he : Run.enter h.machine dir = .error f) :
    h.step (.push dir) = h := by simp [step, he]

theorem step_drop {h : Held} {w : WayBack} {ways : List WayBack} (hw : h.ways = w :: ways) :
    h.step .drop = ⟨Run.leave h.machine w, ways⟩ := by simp [step, hw]

theorem ways_step {h : Held} {a : Act} {above below : List WayBack} (hw : h.ways = above ++ below)
    (hl : below.length ≤ (h.step a).ways.length) : ∃ above', (h.step a).ways = above' ++ below := by
  cases a with
  | push dir =>
    cases he : Run.enter h.machine dir with
    | error f => exact ⟨above, by rw [step_push_error he, hw]⟩
    | ok r => exact ⟨r.1 :: above, by rw [step_push_ok he, hw, List.cons_append]⟩
  | other change => exact ⟨above, hw⟩
  | drop =>
    cases above with
    | cons w above =>
      rw [List.cons_append] at hw
      exact ⟨above, by rw [step_drop hw]⟩
    | nil =>
      cases below with
      | nil => exact ⟨(h.step .drop).ways, (List.append_nil _).symm⟩
      | cons w ways =>
        rw [step_drop hw] at hl
        exact absurd hl (Nat.not_succ_le_self _)

theorem ways_run {h : Held} {acts : List Act} {above below : List WayBack} (hw : h.ways = above ++ below)
    (hl : ∀ front, front <+: acts → below.length ≤ (h.run front).ways.length) :
    ∃ above', (h.run acts).ways = above' ++ below := by
  induction acts generalizing h above with
  | nil => exact ⟨above, hw⟩
  | cons a acts ih =>
    obtain ⟨above', ha⟩ := ways_step (a := a) hw (hl [a] (by simp))
    exact ih ha fun front hf => hl (a :: front) (by simpa using hf)

end Held

/-- A run of steps with any way of going back in place of the real one. -/
def performBy {σ : Type} (goBack : Machine → WayBack → Machine) (ex : Runner σ) : Performance σ :=
  fun dir steps state m =>
    match Run.enter m dir with
    | .error f => (.error f, state, m)
    | .ok (w, m) =>
      let (result, state, m) := Run.inOrder ex steps state m
      (result, state, goBack m w)

/-- The path recorded at a start in `before` names in `after` the directory that was current. -/
def WayBackStands (before after : Machine) : Prop :=
  ∀ here, before.currentDir? = some here → after.locate here = .ok (.dir before.place)

variable {σ α : Type}

/-- A matching pair: the way back that a push has recorded is the one a drop uses when the ways back recorded since have
been used, and no more. -/
theorem Held.place_drop {g : Held} {dir : Bytes} {w : WayBack} {m : Machine} {inner : List Act}
    (he : Run.enter g.machine dir = .ok (w, m))
    (hh : ∀ front, front <+: inner → g.ways.length < ((g.step (.push dir)).run front).ways.length)
    (hl : ((g.step (.push dir)).run inner).ways.length = g.ways.length + 1)
    (hw : ((g.step (.push dir)).run inner).machine.locate w.path = .ok (.dir g.machine.place)) :
    (((g.step (.push dir)).run inner).step .drop).machine.place = g.machine.place ∧
      (((g.step (.push dir)).run inner).step .drop).ways = g.ways := by
  have hpush : (g.step (.push dir)).ways = [] ++ w :: g.ways := by rw [step_push_ok he, List.nil_append]
  obtain ⟨above, habove⟩ := ways_run hpush hh
  have hnil : above = [] := by
    rw [habove, List.length_append, List.length_cons] at hl
    exact List.eq_nil_of_length_eq_zero (by omega)
  subst hnil
  rw [step_drop habove]
  exact ⟨Run.place_leave hw, rfl⟩

theorem place_perform (ex : Runner σ) (dir : Bytes) (steps : List Step) (state : σ) (m : Machine)
    (h : WayBackStands m (perform ex dir steps state m).2.2) : (perform ex dir steps state m).2.2.place = m.place := by
  unfold perform at h ⊢
  cases he : Run.enter m dir with
  | error f => rfl
  | ok r =>
    obtain ⟨w, inside⟩ := r
    obtain ⟨p, e, hw, -, -⟩ := Run.of_enter_eq_ok he
    simp only [he] at h ⊢
    apply Run.place_leave
    have hthere := h w.path hw
    rwa [Machine.locate, Run.tree_leave, Tree.locate_of_isAbsolute (Machine.isAbsolute_currentDir hw)] at hthere

theorem performBy_result (goBack : Machine → WayBack → Machine) (ex : Runner σ) (dir : Bytes) (steps : List Step)
    (state : σ) (m : Machine) :
    (performBy goBack ex dir steps state m).1 = (perform ex dir steps state m).1 := by
  unfold performBy perform
  cases Run.enter m dir <;> rfl

namespace Errand

theorem place_carryOut (ex : Runner σ) (state : σ) {ready : Except Failure (Errand α) × Machine} {m : Machine}
    (hr : ready.2.place = m.place) (h : WayBackStands m (carryOut (perform ex) state ready).2.2) :
    (carryOut (perform ex) state ready).2.2.place = m.place := by
  obtain ⟨_ | e, prepared⟩ := ready
  · exact hr
  · obtain ⟨-, hplace, htree⟩ := carryOut_rest (perform ex) state e prepared
    rw [hplace, ← hr]
    refine place_perform ex e.directory e.steps state prepared fun here hh => ?_
    have hthere := h here (by simpa [Machine.currentDir?, ← hr] using hh)
    rw [Machine.locate, htree] at hthere
    rw [Machine.locate, Tree.locate_of_isAbsolute (Machine.isAbsolute_currentDir hh), hthere, hr]

end Errand

/-- Coming back.  For ways back that are used in the reverse order of their recording, with anything in between: a push
that fails leaves everything as it was, and a drop leads back where its push was made, as long as the recorded path
still names that place.  So do runs of steps and both tasks, whatever the runner does and however they end, and what they
answer does not hang on how going back ends. -/
theorem way_back_leads_back (σ : Type) (ex : Runner σ) (state : σ) (m : Machine) :
    (∀ (g : Held) dir f, Run.enter g.machine dir = .error f → g.step (.push dir) = g) ∧
    (∀ (g : Held) dir w m' inner, Run.enter g.machine dir = .ok (w, m') →
      (∀ front, front <+: inner → g.ways.length < ((g.step (.push dir)).run front).ways.length) →
      ((g.step (.push dir)).run inner).ways.length = g.ways.length + 1 →
      g.machine.currentDir? = some w.path ∧
        (((g.step (.push dir)).run inner).machine.locate w.path = .ok (.dir g.machine.place) →
          (((g.step (.push dir)).run inner).step .drop).machine.place = g.machine.place ∧
          (((g.step (.push dir)).run inner).step .drop).ways = g.ways)) ∧
    (∀ dir steps, WayBackStands m (perform ex dir steps state m).2.2 →
      (perform ex dir steps state m).2.2.place = m.place) ∧
    (∀ s r, WayBackStands m (install s r ex state m).2.2 → (install s r ex state m).2.2.place = m.place) ∧
    (∀ s r today, WayBackStands m (pack s r today ex state m).2.2 →
      (pack s r today ex state m).2.2.place = m.place) ∧
    (∀ dir steps, performBy Run.leave ex dir steps state m = perform ex dir steps state m) ∧
    ∀ goBack,
      (∀ dir steps, (performBy goBack ex dir steps state m).1 = (perform ex dir steps state m).1) ∧
      (∀ s r, (Errand.carryOut (performBy goBack ex) state (Install.prepare s r m)).1 = (install s r ex state m).1) ∧
      ∀ s r today,
        (Errand.carryOut (performBy goBack ex) state (Pack.prepare s r today m)).1 =
          (pack s r today ex state m).1 := by
  have hresult (goBack : Machine → WayBack → Machine) (dir : Bytes) (steps : List Step) (m : Machine) :
      (performBy goBack ex dir steps state m).1 = (perform ex dir steps state m).1 :=
    performBy_result goBack ex dir steps state m
  refine ⟨fun g dir f he => Held.step_push_error he, fun g dir w m' inner he hh hl => ⟨?_, Held.place_drop he hh hl⟩,
    fun dir steps => place_perform ex dir steps state m, fun s r h => ?_, fun s r today h => ?_, fun _ _ => rfl,
    fun goBack => ⟨fun dir steps => hresult goBack dir steps m, fun s r => ?_, fun s r today => ?_⟩⟩
  · obtain ⟨_, _, hw, -, -⟩ := Run.of_enter_eq_ok he
    exact hw
  · rw [install_eq] at h ⊢
    exact Errand.place_carryOut ex state (Install.place_prepare s r m) h
  · rw [pack_eq] at h ⊢
    exact Errand.place_carryOut ex state (Pack.place_prepare s r today m) h
  · rw [install_eq, Errand.carryOut_answer, Errand.carryOut_answer]
    simp only [hresult]
  · rw [pack_eq, Errand.carryOut_answer, Errand.carryOut_answer]
    simp only [hresult]

end Slipway
