import Slipway.Proofs.Task.Probe
import Slipway.Proofs.Tools
import Slipway.Task.Install
import Slipway.Task.Pack
set_option autoImplicit false

/-!
The two tasks have one shape: something is prepared, steps are run in a directory, and a last line is printed when all
went well.  Here the preparation is told apart from the rest (`install_eq`, `pack_eq`).  It never moves the machine to
another directory (`Install.place_prepare`, `Pack.place_prepare`).
-/

namespace Slipway

/-- What is ready to be carried out. -/
structure Errand (α : Type) where
  directory : Bytes
  steps : List Step
  answer : α
  farewell : Text

abbrev Performance (σ : Type) := Bytes → List Step → σ → Machine → Except Failure Unit × σ × Machine

def Errand.carryOut {σ α : Type} (run : Performance σ) (state : σ) :
    Except Failure (Errand α) × Machine → Except Failure α × σ × Machine
  | (.error f, m) => (.error f, state, m)
  | (.ok e, m) =>
    match run e.directory e.steps state m with
    | (.error f, state, m) => (.error f, state, m)
    | (.ok (), state, m) => (.ok e.answer, state, m.printLine e.farewell)

def Install.plan (s : Settings) (r : InstallRequest) : InstallPlan := .ofRequest r s.projectRoot s.compileArgs

def Install.errand (s : Settings) (r : InstallRequest) : Errand Unit :=
  ⟨(plan s r).directory, (plan s r).steps, (), farewell r⟩

def Install.prepare (s : Settings) (r : InstallRequest) (m : Machine) : Except Failure (Errand Unit) × Machine :=
  match checkRoot s m with
  | .error f => (.error f, m)
  | .ok () =>
    match Tools.requireFor s (plan s r).steps m with
    | (.error f, m) => (.error f, m)
    | (.ok (), m) =>
      match prepareDir (plan s r).directory m with
      | .error f => (.error f, m)
      | .ok m => (.ok (errand s r), m)

def Pack.prepare (s : Settings) (r : PackRequest) (today : Date) (m : Machine) :
    Except Failure (Errand PackPlan) × Machine :=
  match m.canonical s.projectRoot with
  | .error c => (.error (.atPath s.projectRoot c), m)
  | .ok root =>
    match PackPlan.ofRoot r.onlyCli root PackPlan.projectName today with
    | .error f => (.error f, m)
    | .ok plan =>
      match Tools.requireFor s [plan.step] m with
      | (.error f, m) => (.error f, m)
      | (.ok (), m) =>
        match probe plan.directory m with
        | .error f => (.error f, m)
        | .ok m => (.ok ⟨plan.directory, [plan.step], plan, farewell plan⟩, m)

variable {σ : Type}

namespace Errand

variable {α : Type} (run : Performance σ) (state : σ)

theorem carryOut_answer (ready : Except Failure (Errand α) × Machine) :
    (carryOut run state ready).1 =
      ready.1.bind fun e => (run e.directory e.steps state ready.2).1.map fun _ => e.answer := by
  obtain ⟨f | e, m⟩ := ready
  · rfl
  · simp only [carryOut, Except.bind]
    rcases run e.directory e.steps state m with ⟨_ | _, _, _⟩ <;> rfl

theorem carryOut_of_error {ready : Except Failure (Errand α) × Machine} {f : Failure}
    (h : ready.1 = .error f) : carryOut run state ready = (.error f, state, ready.2) := by
  obtain ⟨_, m⟩ := ready
  obtain rfl : _ = Except.error f := h
  rfl

theorem carryOut_rest (e : Errand α) (m : Machine) :
    (carryOut run state (.ok e, m)).2.1 = (run e.directory e.steps state m).2.1 ∧
      (carryOut run state (.ok e, m)).2.2.place = (run e.directory e.steps state m).2.2.place ∧
      (carryOut run state (.ok e, m)).2.2.tree = (run e.directory e.steps state m).2.2.tree := by
  simp only [carryOut]
  rcases run e.directory e.steps state m with ⟨_ | _, _, _⟩ <;> exact ⟨rfl, rfl, rfl⟩

end Errand

theorem install_eq (s : Settings) (r : InstallRequest) (ex : Runner σ) (state : σ) (m : Machine) :
    install s r ex state m = Errand.carryOut (perform ex) state (Install.prepare s r m) := by
  unfold install Install.prepare Install.plan
  cases Install.checkRoot s m with
  | error f => rfl
  | ok _ =>
    dsimp only
    rcases Tools.requireFor s (InstallPlan.ofRequest r s.projectRoot s.compileArgs).steps m with ⟨_ | _, m⟩
    · rfl
    · dsimp only
      cases Install.prepareDir (InstallPlan.ofRequest r s.projectRoot s.compileArgs).directory m with
      | error f => rfl
      | ok m => rfl

theorem pack_eq (s : Settings) (r : PackRequest) (today : Date) (ex : Runner σ) (state : σ) (m : Machine) :
    pack s r today ex state m = Errand.carryOut (perform ex) state (Pack.prepare s r today m) := by
  unfold pack Pack.prepare
  cases m.canonical s.projectRoot with
  | error c => rfl
  | ok root =>
    dsimp only
    cases PackPlan.ofRoot r.onlyCli root PackPlan.projectName today with
    | error f => rfl
    | ok plan =>
      dsimp only
      rcases Tools.requireFor s [plan.step] m with ⟨_ | _, m⟩
      · rfl
      · dsimp only
        cases Pack.probe plan.directory m with
        | error f => rfl
        | ok m => rfl

theorem Install.place_prepareDir {dir : Bytes} {m m' : Machine} (h : prepareDir dir m = .ok m') :
    m'.place = m.place := by
  unfold prepareDir at h
  split at h
  · rw [Except.ok.inj h]
  · split at h
    · contradiction
    · rename_i made hm
      rw [← Except.ok.inj h, Machine.place_printLine]
      unfold Machine.makeDir at hm
      split at hm
      · rw [← Except.ok.inj hm]
      · contradiction
      · contradiction

theorem Install.place_prepare (s : Settings) (r : InstallRequest) (m : Machine) :
    (prepare s r m).2.place = m.place := by
  unfold prepare
  split
  · rfl
  · split
    case h_1 hc => exact Machine.quiet_place.requireFor hc
    case h_2 hc =>
      split
      · exact Machine.quiet_place.requireFor hc
      · rename_i hp
        exact (place_prepareDir hp).trans (Machine.quiet_place.requireFor hc)

theorem Pack.place_prepare (s : Settings) (r : PackRequest) (today : Date) (m : Machine) :
    (prepare s r today m).2.place = m.place := by
  unfold prepare
  split
  · rfl
  · split
    · rfl
    · split
      case h_1 hc => exact Machine.quiet_place.requireFor hc
      case h_2 hc =>
        split
        · exact Machine.quiet_place.requireFor hc
        · rename_i hp
          exact (place_probe hp).trans (Machine.quiet_place.requireFor hc)

end Slipway
