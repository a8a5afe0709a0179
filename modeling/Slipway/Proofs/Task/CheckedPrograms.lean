import Slipway.Proofs.Machine.Search
import Slipway.Proofs.Task.Prepared
set_option autoImplicit false

/-!
What the check of the programs is worth once the steps are run.  The check is made where the task was started, the search
in the directory the steps run in.  Where the search path is reliable (`Machine.Reliable`) what has passed the check is
found (`checked_programs_found`); with a relative directory in it the check may look at other files than the search
(`relative_entry_misleads`).
-/

namespace Slipway

namespace Machine

theorem env_start {m m' : Machine} {argv : List Bytes} {ending : Ending} (h : m.start argv = .ok (ending, m')) :
    m'.env = m.env := by
  unfold start at h
  split at h
  · cases h
  · split at h
    · cases h
    · rw [← (Prod.mk.inj (Except.ok.inj h)).2]
      rfl

end Machine

namespace Runner

theorem env_starting (s : Step) (state : Unit) (m : Machine) : (starting s state m).2.2.env = m.env := by
  unfold starting
  cases hs : m.start (s.program :: s.args) with
  | error c => rfl
  | ok r =>
    obtain ⟨ending, m'⟩ := r
    cases ending <;> exact Machine.env_start hs

theorem starting_of_startFile? {s : Step} {m : Machine} {path : Bytes} {ws : List Bytes}
    (h : m.startFile? (m.startPaths s.program) = some path) (hw : m.shellWords path = .ok ws) (state : Unit)
    (e : OsError) : (starting s state m).1.result ≠ .error (.notStarted (lossy s.program) (.os e)) := by
  have hstart := Machine.start_of_startFile? (s.program :: s.args) h hw
  unfold starting
  cases hs : m.start (s.program :: s.args) with
  | error c =>
    intro hf
    obtain rfl : c = .os e := by simpa using hf
    exact hstart e hs
  | ok r =>
    obtain ⟨ending, m'⟩ := r
    cases ending <;> simp

end Runner

/-- The search for the step's program ends at a file, and if that can be executed the operating system does not refuse to
start it. -/
def Handover.Found (h : Handover Unit) : Prop :=
  ∃ path, h.given.2.startFile? (h.given.2.startPaths h.step.program) = some path ∧
    ((∃ ws, h.given.2.shellWords path = .ok ws) →
      ∀ e, h.reply.result ≠ .error (.notStarted (lossy h.step.program) (.os e)))

namespace Errand

variable {α : Type} {state : Unit} {ready : Except Failure (Errand α) × Machine} {seen : List (Handover Unit)}
  {e : Errand α} {way : WayBack} {inside : Machine} {h : Handover Unit}

theorem UnderWay.env_given (hu : UnderWay Runner.starting state ready seen e way inside) (hh : h ∈ seen) :
    h.given.2.env = ready.2.env := by
  obtain ⟨result, hseq⟩ := hu.in_sequence
  obtain ⟨last, hunbroken⟩ := hu.unbroken _ _ Machine.quiet_env
  have hkept : ∀ k ∈ seen, k.left.2.env = k.given.2.env := by
    intro k hk
    have henv := Runner.env_starting k.step k.given.1 k.given.2
    rwa [hseq.answered k hk] at henv
  obtain ⟨p, event, -, -, hinside⟩ := Run.of_enter_eq_ok hu.entered
  rw [hunbroken.given_of_kept hkept hh, hinside, Machine.env_emit]

theorem UnderWay.step_mem (hu : UnderWay Runner.starting state ready seen e way inside) (hh : h ∈ seen) :
    h.step ∈ e.steps := by
  obtain ⟨result, hseq⟩ := hu.in_sequence
  exact hseq.first_steps.subset (List.mem_map_of_mem hh)

theorem UnderWay.found {m : Machine} (hu : UnderWay Runner.starting state ready seen e way inside) (hh : h ∈ seen)
    (hn : Path.IsName h.step.program) (hfound : m.findProgram? h.step.program ≠ none) (henv : ready.2.env = m.env)
    (ht : m.tree.Within h.given.2.tree) (hr : h.given.2.Reliable h.step.program) : h.Found := by
  have henv' : h.given.2.env.get? Machine.pathVar = m.env.get? Machine.pathVar := by rw [hu.env_given hh, henv]
  obtain ⟨path, hpath⟩ := Machine.startFile?_of_findProgram? hn hfound henv' ht hr
  refine ⟨path, hpath, fun ⟨ws, hw⟩ e => ?_⟩
  obtain ⟨result, hseq⟩ := hu.in_sequence
  have hstarted := Runner.starting_of_startFile? hpath hw h.given.1 e
  rwa [hseq.answered h hh] at hstarted

end Errand

namespace Install

theorem isName_program {r : InstallRequest} {s : Settings} {step : Step} (h : step ∈ (plan s r).steps) :
    Path.IsName step.program := by
  have hcmake : Path.IsName (utf8 "cmake".toList) := ⟨by decide, by decide, by decide, by decide⟩
  have hmake : Path.IsName (utf8 "make".toList) := ⟨by decide, by decide, by decide, by decide⟩
  have hsudo : Path.IsName (utf8 "sudo".toList) := ⟨by decide, by decide, by decide, by decide⟩
  simp only [plan, InstallPlan.ofRequest, List.mem_cons, List.not_mem_nil, or_false] at h
  rcases h with rfl | rfl | rfl
  · exact hcmake
  · exact hmake
  · cases r.withSudo
    · exact hmake
    · exact hsudo

end Install

variable {s : Settings} {m : Machine} {h : Handover Unit}

theorem Install.found {r : InstallRequest} (hh : h ∈ (install s r Runner.starting.traced ((), []) m).2.1.2)
    (hskip : s.skipToolCheck = false) (ht : m.tree.Within h.given.2.tree)
    (hr : h.given.2.Reliable h.step.program) : h.Found := by
  obtain ⟨ready, way, inside, q, hprepared, hu⟩ := handed_over hh
  have hmem : h.step ∈ (plan s r).steps := hu.step_mem hh
  have hn := isName_program hmem
  exact hu.found hh hn (hprepared.tools.found hskip hmem hn.nonempty) hprepared.env ht hr

theorem Pack.found {r : PackRequest} {today : Date}
    (hh : h ∈ (pack s r today Runner.starting.traced ((), []) m).2.1.2) (hskip : s.skipToolCheck = false)
    (ht : m.tree.Within h.given.2.tree) (hr : h.given.2.Reliable h.step.program) : h.Found := by
  rw [pack_eq] at hh
  obtain ⟨e, way, inside, hu⟩ := Errand.handed_over hh
  rcases hp : prepare s r today m with ⟨result, ready⟩
  rw [hp] at hu hh
  obtain rfl : result = .ok e := hu.prepared
  obtain ⟨plan, hsteps, henv, htools⟩ := prepared_of_ok hp
  have hmem : h.step ∈ e.steps := hu.step_mem hh
  have hn : Path.IsName h.step.program := by
    rw [hsteps, List.mem_singleton] at hmem
    have htar : Path.IsName (utf8 "tar".toList) := ⟨by decide, by decide, by decide, by decide⟩
    rw [hmem]
    exact htar
  exact hu.found hh hn (htools.found hskip (hsteps ▸ hmem) hn.nonempty) henv ht hr

/-- The check of the programs is sound wherever the search path is reliable: in a build and in packing, each step that is
handed over while no file has gone since the check has a program that the search finds, and that starts if it can be
executed. -/
theorem checked_programs_found (s : Settings) (m : Machine) (hskip : s.skipToolCheck = false) :
    (∀ r, ∀ h ∈ (install s r Runner.starting.traced ((), []) m).2.1.2,
      m.tree.Within h.given.2.tree → h.given.2.Reliable h.step.program → h.Found) ∧
    ∀ r today, ∀ h ∈ (pack s r today Runner.starting.traced ((), []) m).2.1.2,
      m.tree.Within h.given.2.tree → h.given.2.Reliable h.step.program → h.Found :=
  ⟨fun _ _ hh ht hr => Install.found hh hskip ht hr, fun _ _ _ hh ht hr => Pack.found hh hskip ht hr⟩

def toolMachine (searchPath : String) : Machine :=
  { Machine.ofFiles
      [(["b"], .dir), (["b", "cmake"], .file true []), (["b", "make"], .file true []), (["b", "sudo"], .file true []),
        (["p"], .dir), (["p", "CMakeLists.txt"], .file false []), (["p", "build"], .dir)] with
    env := [(Machine.pathVar, utf8 searchPath.toList)] }

def toolSettings : Settings := ⟨utf8 "/p".toList, none, false⟩

theorem checked_programs_found_absolute :
    ∃ h ∈ (install toolSettings .standard Runner.starting.traced ((), []) (toolMachine "/b")).2.1.2,
      h.step = InstallPlan.configure .standard ∧ h.Found := by
  have hseen : (install toolSettings .standard Runner.starting.traced ((), []) (toolMachine "/b")).2.1.2.map
      (fun h => (h.step, h.given.2.tree, h.given.2.env)) =
      [(InstallPlan.configure .standard, (toolMachine "/b").tree, (toolMachine "/b").env)] := rfl
  obtain ⟨h, hh, hgiven⟩ := List.mem_map.1 (hseen ▸ List.mem_singleton_self _)
  obtain ⟨hstep, htree, henv⟩ : h.step = InstallPlan.configure .standard ∧ h.given.2.tree = (toolMachine "/b").tree ∧
      h.given.2.env = (toolMachine "/b").env := by simpa using hgiven
  have hwithin : (toolMachine "/b").tree.Within h.given.2.tree := by
    rw [htree]
    exact .refl _
  refine ⟨h, hh, hstep, (checked_programs_found toolSettings (toolMachine "/b") rfl).1 .standard h hh hwithin ?_⟩
  intro dirs hdirs d hd
  rw [henv] at hdirs
  obtain rfl : utf8 "/b".toList = dirs := Option.some.inj hdirs
  obtain rfl : d = utf8 "/b".toList := List.mem_singleton.1 hd
  refine ⟨rfl, fun c hc => ?_⟩
  rw [Machine.locate, htree, hstep, Tree.locate_of_isAbsolute (q := .root) rfl] at hc
  cases hc

/-- A relative directory in the search path: the check finds every program from where the build is started, and the first
step cannot be started where it runs, though no file and no variable has changed. -/
theorem relative_entry_misleads :
    let m := toolMachine "b"
    let run := install toolSettings .standard Runner.starting () m
    (Tools.require m (Install.plan toolSettings .standard).steps).1 = .ok () ∧
      run.1 = .error (.notStarted "cmake".toList (.os .noEntry)) ∧ run.2.2.tree = m.tree ∧ run.2.2.env = m.env :=
  ⟨rfl, rfl, rfl, rfl⟩

end Slipway
