import Slipway.Proofs.Program.Arguments
import Slipway.Proofs.Settings.Reading
import Slipway.Proofs.Task.Ends
set_option autoImplicit false

namespace Slipway

theorem Failure.exitStatus_range (f : Failure) : 1 ≤ f.exitStatus ∧ f.exitStatus ≤ 255 := by
  cases f with
  | stepFailed name command code =>
    unfold exitStatus
    split <;> omega
  | _ => simp [exitStatus]

namespace Program

theorem Stop.status_failure (f : Failure) : ((Stop.failure f).status : Int) = f.exitStatus := by
  obtain ⟨hpos, hle⟩ := f.exitStatus_range
  have hfits : 0 ≤ f.exitStatus ∧ f.exitStatus ≤ 255 := ⟨by omega, hle⟩
  rw [status, if_pos hfits]
  omega

theorem Stop.status_stepFailed (name command : Text) {n : Nat} (hn : n ≠ 0) :
    (Stop.failure (.stepFailed name command n)).status = if n ≤ 255 then n else 1 := by
  have hexit : (Failure.stepFailed name command n).exitStatus =
      if 1 ≤ (n : Int) ∧ (n : Int) ≤ 255 then (n : Int) else 1 := rfl
  have hstatus := Stop.status_failure (.stepFailed name command n)
  rw [hexit] at hstatus
  split at hstatus <;> split <;> omega

theorem status_of_ends {α : Type} {s : Settings} {after : Machine}
    {make : Bytes → Machine → Except Failure Machine} {planned : Except Failure (Errand α)}
    {seen : List (Handover Unit)} {result : Except Failure Unit} {status : Nat}
    (he : Errand.Ends s after make planned seen result status) (m : Machine) :
    (finish (result.mapError .failure, m)).1 = status := by
  cases he with
  | unplanned => rfl
  | lacking => rfl
  | blocked => rfl
  | failed hp ht ho hover hfront hf =>
    cases hf with
    | notStarted => rfl
    | exited hs hn => exact Stop.status_stepFailed _ _ hn
    | killed => rfl
  | done => rfl

variable {ρ α σ : Type}

/-- What is certain of a run: `parsed` is what its arguments come to, `planned` is what a request asks for, `make` gets the
directory ready, `after` is the machine with the settings `s` read, `run` the run with a record, and `ended` what the
program leaves. -/
structure Accounted (parsed : Except Failure (Invocation ρ)) (planned : ρ → Except Failure (Errand α))
    (make : Bytes → Machine → Except Failure Machine) (s : Settings) (m after : Machine)
    (run : Except Stop Unit × (Unit × List (Handover Unit)) × Machine) (ended : Nat × Machine) : Prop where
  recorded : ended = finish (run.1, run.2.2)
  refused : ∀ f, parsed = .error f → ended.1 = 64 ∧ run.2.1.2 = [] ∧ m.Alike ended.2
  informed : ∀ t, parsed = .ok (.info t) → ended.1 = 0 ∧ run.2.1.2 = [] ∧ m.Alike ended.2
  carried_out : ∀ r, parsed = .ok (.run r) → ∃ result : Except Failure Unit, run.1 = result.mapError .failure ∧
    Errand.Ends s after make (planned r) run.2.1.2 result ended.1
  missing : ∀ r e step, parsed = .ok (.run r) → planned r = .ok e → s.skipToolCheck = false → step ∈ e.steps →
    Tools.Lacks after step → run.2.1.2 = [] ∧ ended.1 = 69
  zero_iff : ended.1 = 0 ↔ (∃ t, parsed = .ok (.info t)) ∨
    ∃ r e, parsed = .ok (.run r) ∧ planned r = .ok e ∧ run.2.1.2.map Handover.step = e.steps ∧
      ∀ h ∈ run.2.1.2, h.Exited 0
  sixtyFour_iff : ended.1 = 64 ↔ (∃ f, parsed = .error f) ∨
    ∃ r h, parsed = .ok (.run r) ∧ run.2.1.2.getLast? = some h ∧ h.Exited 64

theorem Gives.alike {a : Answer} {state : σ} {m : Machine} {run : Except Stop Unit × σ × Machine}
    (h : Gives a state (withLog m) run) : m.Alike (finish (run.1, run.2.2)).2 := by
  rw [h.1]
  exact ⟨rfl, rfl, rfl⟩

theorem accounted {parsed : Except Failure (Invocation ρ)} {planned : ρ → Except Failure (Errand α)}
    {make : Bytes → Machine → Except Failure Machine} {s : Settings} {m after : Machine}
    {run : Except Stop Unit × (Unit × List (Handover Unit)) × Machine}
    (hgives : ∀ a, answer? parsed = some a → Gives a ((), []) (withLog m) run)
    (hruns : ∀ r, parsed = .ok (.run r) → ∃ (result : Except Failure Unit) (status : Nat),
      run.1 = result.mapError .failure ∧ Errand.Ends s after make (planned r) run.2.1.2 result status)
    (hne : ∀ r e, planned r = .ok e → e.steps ≠ []) :
    Accounted parsed planned make s m after run (finish (run.1, run.2.2)) := by
  have hends : ∀ r, parsed = .ok (.run r) → ∃ result : Except Failure Unit, run.1 = result.mapError .failure ∧
      Errand.Ends s after make (planned r) run.2.1.2 result (finish (run.1, run.2.2)).1 := by
    intro r hr
    obtain ⟨result, status, hresult, he⟩ := hruns r hr
    refine ⟨result, hresult, ?_⟩
    rw [hresult, status_of_ends he]
    exact he
  have hanswer : ∀ a, answer? parsed = some a →
      (finish (run.1, run.2.2)).1 = a.status ∧ run.2.1.2 = [] ∧ m.Alike (finish (run.1, run.2.2)).2 := fun a ha =>
    ⟨by rw [(hgives a ha).1], by rw [(hgives a ha).2], (hgives a ha).alike⟩
  have herror : ∀ f, parsed = .error f →
      (finish (run.1, run.2.2)).1 = 64 ∧ run.2.1.2 = [] ∧ m.Alike (finish (run.1, run.2.2)).2 := fun f hf =>
    hanswer ⟨64, [], (Stop.failure f).line⟩ (by rw [hf]; rfl)
  have hinfo : ∀ t, parsed = .ok (.info t) →
      (finish (run.1, run.2.2)).1 = 0 ∧ run.2.1.2 = [] ∧ m.Alike (finish (run.1, run.2.2)).2 := fun t ht =>
    hanswer ⟨0, t, []⟩ (by rw [ht]; rfl)
  constructor
  case recorded => rfl
  case refused => exact herror
  case informed => exact hinfo
  case carried_out => exact hends
  case missing =>
    intro r e step hr hp hskip hstep hl
    obtain ⟨result, -, he⟩ := hends r hr
    exact he.of_lacks hp hskip hstep hl
  case zero_iff =>
    cases hp : parsed with
    | error f => simp [(herror f hp).1]
    | ok i =>
      cases i with
      | info t => simp [(hinfo t hp).1]
      | run r =>
        obtain ⟨result, -, he⟩ := hends r hp
        simpa using he.zero_iff (hne r)
  case sixtyFour_iff =>
    cases hp : parsed with
    | error f => simp [(herror f hp).1]
    | ok i =>
      cases i with
      | info t => simp [(hinfo t hp).1]
      | run r =>
        obtain ⟨result, -, he⟩ := hends r hp
        simpa using he.sixtyFour_iff

theorem runInstall_cases (argv : List Bytes) (m : Machine) :
    (∃ result left, ∀ (σ : Type) (ex : Runner σ) (state : σ), runInstall argv ex state m = (result, state, left)) ∨
      ∃ s r after, ∀ (σ : Type) (ex : Runner σ) (state : σ), runInstall argv ex state m =
        ((install s r ex state after).1.mapError .failure, (install s r ex state after).2) := by
  unfold runInstall
  rcases m.currentDir? with _ | here
  · exact .inl ⟨_, _, fun _ _ _ => rfl⟩
  dsimp only
  rcases InstallRequest.parse here argv with f | r | t
  · exact .inl ⟨_, _, fun _ _ _ => rfl⟩
  · dsimp only
    rcases Settings.read here (m.emit _) with c | ⟨s, after⟩
    · exact .inl ⟨_, _, fun _ _ _ => rfl⟩
    · exact .inr ⟨s, r, after, fun _ _ _ => rfl⟩
  · exact .inl ⟨_, _, fun _ _ _ => rfl⟩

theorem runPack_cases (argv : List Bytes) (today : Date) (m : Machine) :
    (∃ result left, ∀ (σ : Type) (ex : Runner σ) (state : σ), runPack argv today ex state m = (result, state, left)) ∨
      ∃ s r after, ∀ (σ : Type) (ex : Runner σ) (state : σ), runPack argv today ex state m =
        (((pack s r today ex state after).1.map fun _ => ()).mapError .failure, (pack s r today ex state after).2) := by
  unfold runPack
  rcases PackRequest.parse argv with f | r | t
  · exact .inl ⟨_, _, fun _ _ _ => rfl⟩
  · dsimp only
    rcases m.currentDir? with _ | here
    · exact .inl ⟨_, _, fun _ _ _ => rfl⟩
    dsimp only
    rcases Settings.read here m with c | ⟨s, after⟩
    · exact .inl ⟨_, _, fun _ _ _ => rfl⟩
    · exact .inr ⟨s, r, after, fun _ _ _ => rfl⟩
  · exact .inl ⟨_, _, fun _ _ _ => rfl⟩

section

variable (argv : List Bytes) (ex : Runner σ) (state : σ) (before : List (Handover σ)) (m : Machine)

theorem runInstall_traced :
    ∃ seen, runInstall argv ex.traced (state, before) m =
      ((runInstall argv ex state m).1, ((runInstall argv ex state m).2.1, before ++ seen),
        (runInstall argv ex state m).2.2) := by
  obtain ⟨result, left, hrun⟩ | ⟨s, r, after, hrun⟩ := runInstall_cases argv m
  · exact ⟨[], by simp [hrun]⟩
  · obtain ⟨seen, hinstall⟩ := Install.install_traced (s := s) (r := r) (m := after) ex state before
    exact ⟨seen, by simp only [hrun, hinstall]⟩

theorem runPack_traced (today : Date) :
    ∃ seen, runPack argv today ex.traced (state, before) m =
      ((runPack argv today ex state m).1, ((runPack argv today ex state m).2.1, before ++ seen),
        (runPack argv today ex state m).2.2) := by
  obtain ⟨result, left, hrun⟩ | ⟨s, r, after, hrun⟩ := runPack_cases argv today m
  · exact ⟨[], by simp [hrun]⟩
  · obtain ⟨seen, hpack⟩ := pack_traced s r today ex state before after
    exact ⟨seen, by simp only [hrun, hpack]⟩

end

theorem mainInstall_eq (argv : List Bytes) (m : Machine) :
    mainInstall argv m =
      finish ((runInstall argv Runner.starting.traced ((), []) (withLog m)).1,
        (runInstall argv Runner.starting.traced ((), []) (withLog m)).2.2) := by
  obtain ⟨seen, hrecord⟩ := runInstall_traced argv Runner.starting () [] (withLog m)
  rw [hrecord]
  rfl

theorem mainPack_eq (argv : List Bytes) (today : Date) (m : Machine) :
    mainPack argv today m =
      finish ((runPack argv today Runner.starting.traced ((), []) (withLog m)).1,
        (runPack argv today Runner.starting.traced ((), []) (withLog m)).2.2) := by
  obtain ⟨seen, hrecord⟩ := runPack_traced argv Runner.starting () [] (withLog m) today
  rw [hrecord]
  rfl

section

variable {argv : List Bytes} {m m' after : Machine} {here : Bytes} {s : Settings}

theorem runInstall_run {r : InstallRequest} (hp : InstallRequest.parse here argv = .ok (.run r))
    (hlike : m.Alike m') (hh : m.currentDir? = some here) (hread : Settings.read here m = .ok (s, after))
    (ex : Runner σ) (state : σ) :
    ∃ after', after.Alike after' ∧ runInstall argv ex state m' =
      ((install s r ex state after').1.mapError .failure, (install s r ex state after').2) := by
  unfold runInstall
  simp only [hlike.currentDir?, hh, hp]
  generalize he : m'.emit _ = logged
  obtain ⟨after', hread', hafter⟩ := (hlike.trans (he ▸ Machine.alike_emit m' _)).read hread
  exact ⟨after', hafter, by simp only [hread']⟩

theorem runPack_run {r : PackRequest} (hp : PackRequest.parse argv = .ok (.run r)) (hlike : m.Alike m')
    (hh : m.currentDir? = some here) (hread : Settings.read here m = .ok (s, after)) (today : Date) (ex : Runner σ)
    (state : σ) :
    ∃ after', after.Alike after' ∧ runPack argv today ex state m' =
      (((pack s r today ex state after').1.map fun _ => ()).mapError .failure, (pack s r today ex state after').2) := by
  unfold runPack
  obtain ⟨after', hread', hafter⟩ := hlike.read hread
  exact ⟨after', hafter, by simp only [hp, hlike.currentDir?, hh, hread']⟩

end

section

variable (argv : List Bytes) {m after : Machine} {here : Bytes} {s : Settings} (hh : m.currentDir? = some here)
  (hread : Settings.read here m = .ok (s, after))
include hh hread

theorem accounted_install :
    Accounted (InstallRequest.parse here argv) (Install.planned s after) Install.prepareDir s m after
      (runInstall argv Runner.starting.traced ((), []) (withLog m)) (mainInstall argv m) := by
  have hlike : m.Alike (withLog m) := ⟨rfl, rfl, rfl⟩
  rw [mainInstall_eq]
  have hh' : (withLog m).currentDir? = some here := hh
  refine accounted (fun a ha => runInstall_gives ha hh' _ _) (fun r hr => ?_) fun r e hp => Install.steps_ne_nil hp
  obtain ⟨after', hafter, hrun⟩ := runInstall_run hr hlike hh hread Runner.starting.traced ((), [])
  obtain ⟨status, he⟩ := Errand.exists_ends (hafter.judged hafter.prepareDir (Install.judged s r after'))
  rw [hafter.planned_install, ← install_eq] at he
  rw [hrun]
  refine ⟨_, status, ?_, he⟩
  cases (install s r Runner.starting.traced ((), []) after').1 <;> rfl

theorem accounted_pack (today : Date) :
    Accounted (PackRequest.parse argv) (Pack.planned s today after) Pack.probe s m after
      (runPack argv today Runner.starting.traced ((), []) (withLog m)) (mainPack argv today m) := by
  have hlike : m.Alike (withLog m) := ⟨rfl, rfl, rfl⟩
  rw [mainPack_eq]
  refine accounted (fun a ha => runPack_gives ha _ _ _) (fun r hr => ?_) fun r e hp => Pack.steps_ne_nil hp
  obtain ⟨after', hafter, hrun⟩ := runPack_run hr hlike hh hread today Runner.starting.traced ((), [])
  obtain ⟨status, he⟩ := Errand.exists_ends (hafter.judged hafter.probe (Pack.judged s r today after'))
  rw [hafter.planned_pack, ← pack_eq] at he
  rw [hrun]
  exact ⟨_, status, rfl, he⟩

end

/-- The exit status of both programs, for all arguments, all files and every environment of which settings can be read:
it accounts for the arguments, the checks and each step that is started, and no failure passes for success. -/
theorem exit_status (argv : List Bytes) (m after : Machine) (here : Bytes) (s : Settings)
    (hh : m.currentDir? = some here) (hread : Settings.read here m = .ok (s, after)) :
    Accounted (InstallRequest.parse here argv) (Install.planned s after) Install.prepareDir s m after
      (runInstall argv Runner.starting.traced ((), []) (withLog m)) (mainInstall argv m) ∧
    (∀ today, Accounted (PackRequest.parse argv) (Pack.planned s today after) Pack.probe s m after
      (runPack argv today Runner.starting.traced ((), []) (withLog m)) (mainPack argv today m)) ∧
    ∀ f : Failure, 1 ≤ f.exitStatus ∧ f.exitStatus ≤ 255 ∧ ((Stop.failure f).status : Int) = f.exitStatus :=
  ⟨accounted_install argv hh hread, accounted_pack argv hh hread,
    fun f => ⟨f.exitStatus_range.1, f.exitStatus_range.2, Stop.status_failure f⟩⟩

def installArgs : List Bytes := ["install-fofimon", "--no-sudo"].map fun a => utf8 a.toList

def exitingTools : Machine :=
  { Machine.ofFiles
      [(["CMakeLists.txt"], .file false []), (["bin"], .dir), (["bin", "sh"], .file true []),
        (["bin", "cmake"], .file true (utf8 "#!/bin/sh\nexit 64\n".toList)),
        (["bin", "make"], .file true (utf8 "#!/bin/sh\nexit 0\n".toList))] with
    env := [(Machine.pathVar, utf8 "/bin".toList)] }

theorem read_exitingTools : ∃ s after, Settings.read [Path.slash] exitingTools = .ok (s, after) := by
  have hload : DotEnv.load exitingTools = .ok (exitingTools, none) := rfl
  have henv : exitingTools.env = .ofTexts [("PATH".toList, "/bin".toList)] := rfl
  obtain ⟨after, hread, -⟩ := Settings.read_of_load [Path.slash] hload henv
  exact ⟨_, after, hread⟩

theorem exit_status_exitingTools :
    ∃ s after, exitingTools.currentDir? = some [Path.slash] ∧
      Settings.read [Path.slash] exitingTools = .ok (s, after) ∧ (mainInstall installArgs exitingTools).1 = 64 ∧
        ∃ h, (runInstall installArgs Runner.starting.traced ((), []) (withLog exitingTools)).2.1.2.getLast? = some h ∧
          h.Exited 64 := by
  obtain ⟨s, after, hread⟩ := read_exitingTools
  have hh : exitingTools.currentDir? = some [Path.slash] := by decide +kernel
  have hstatus : (mainInstall installArgs exitingTools).1 = 64 := by decide +kernel
  have hparse : InstallRequest.parse [Path.slash] installArgs =
      .ok (.run ⟨.release, .cache, defaultInstallRoot, false⟩) := rfl
  refine ⟨s, after, hh, hread, hstatus, ?_⟩
  rcases (exit_status installArgs _ _ _ _ hh hread).1.sixtyFour_iff.1 hstatus with ⟨f, hf⟩ | ⟨r, h, -, hlast, hs⟩
  · rw [hparse] at hf
    cases hf
  · exact ⟨h, hlast, hs⟩

theorem step_may_exit_with_64 :
    (∃ r, InstallRequest.parse [Path.slash] installArgs = .ok (.run r)) ∧
      exitingTools.currentDir? = some [Path.slash] ∧
        (∃ s after, Settings.read [Path.slash] exitingTools = .ok (s, after)) ∧
          (mainInstall installArgs exitingTools).1 = 64 :=
  ⟨⟨⟨.release, .cache, defaultInstallRoot, false⟩, rfl⟩, by decide +kernel, read_exitingTools, by decide +kernel⟩

end Program

end Slipway
