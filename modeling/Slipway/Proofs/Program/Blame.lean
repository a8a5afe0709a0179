import Slipway.Proofs.Program.Status
import Slipway.Proofs.Task.Prepared
set_option autoImplicit false

/-!
Who is to blame for an exit status.  The own failures of an installation have four statuses; a step that has exited with
a code passes that on, whatever it is, as long as a status can hold it.  So two failed runs, the one for a reason of its
own and the other with a failed step, have one status just where the step's code is the status of the first
(`Program.statuses_agree_iff`).
-/

namespace Slipway

namespace Failure

def isOfStep : Failure → Bool
  | .stepFailed .. => true
  | _ => false

def ownStatuses : List Int := [64, 69, 71, 74]

theorem exitStatus_mem_own {f : Failure} (h : f.isOfStep = false) : f.exitStatus ∈ ownStatuses := by
  cases f with
  | stepFailed => cases h
  | refusedArguments | notStarted | atPath | toolMissing => simp [exitStatus, ownStatuses]

end Failure

variable {σ : Type} {ex : Runner σ} {state : σ} {h : Handover σ} {c : Int}

theorem Run.InSequence.of_code_mem {steps : List Step} {here : σ × Machine} {seen : List (Handover σ)}
    {result : Except Failure Unit} (hseq : InSequence ex steps here seen result) (hh : h ∈ seen)
    (hc : h.reply.result = .ok c) (h0 : c ≠ 0) : result = .error (.stepFailed h.step.name h.step.shown c) := by
  have hfailed : ¬ h.Succeeded := fun hs => h0 (Except.ok.inj (hc.symm.trans hs))
  rcases List.eq_nil_or_concat seen with rfl | ⟨front, last, rfl⟩
  · cases hh
  rw [List.concat_eq_append] at hseq hh
  rcases List.mem_append.1 hh with hfront | hlast
  · exact absurd (hseq.before_last h (by simpa using hfront)) hfailed
  · obtain rfl := List.mem_singleton.1 hlast
    exact hseq.of_code h (by simp) c hc h0

theorem Errand.carryOut_of_code {α : Type} {ready : Except Failure (Errand α) × Machine}
    (hh : h ∈ (carryOut (perform ex.traced) (state, []) ready).2.1.2) (hc : h.reply.result = .ok c) (h0 : c ≠ 0) :
    (carryOut (perform ex.traced) (state, []) ready).1 = .error (.stepFailed h.step.name h.step.shown c) ∧
      ∃ e, ready.1 = .ok e ∧ h.step ∈ e.steps := by
  obtain ⟨f | e, m⟩ := ready
  · cases hh
  obtain ⟨-, ⟨f, hrun⟩ | ⟨way, inside, result, -, hseq, hrun⟩⟩ := carryOut_ready ex state e m
  · rw [hrun] at hh
    cases hh
  · rw [hrun, hseq.of_code_mem hh hc h0]
    exact ⟨rfl, e, rfl, hseq.first_steps.subset (List.mem_map_of_mem hh)⟩

namespace Install

def programs : List Bytes := ["cmake", "make", "sudo"].map fun t => utf8 t.toList

theorem program_mem {s : Settings} {r : InstallRequest} {step : Step} (hs : step ∈ (plan s r).steps) :
    step.program ∈ programs := by
  simp only [plan, InstallPlan.ofRequest, List.mem_cons, List.not_mem_nil, or_false] at hs
  rcases hs with rfl | rfl | rfl
  · exact List.mem_cons_self
  · exact List.mem_cons_of_mem _ List.mem_cons_self
  · cases r.withSudo <;> decide

end Install

namespace Program

theorem runInstall_of_code {argv : List Bytes} {m : Machine}
    (hh : h ∈ (runInstall argv ex.traced (state, []) m).2.1.2) (hc : h.reply.result = .ok c) (h0 : c ≠ 0) :
    (runInstall argv ex.traced (state, []) m).1 =
        .error (.failure (.stepFailed h.step.name h.step.shown c)) ∧ h.step.program ∈ Install.programs := by
  obtain ⟨result, left, hrun⟩ | ⟨s, r, after, hrun⟩ := runInstall_cases argv m
  · simp [hrun] at hh
  rw [hrun, install_eq] at hh ⊢
  obtain ⟨hfailed, e, he, hstep⟩ := Errand.carryOut_of_code hh hc h0
  rw [hfailed]
  obtain ⟨rfl, -⟩ := Install.prepared_of_ok (Prod.ext he rfl)
  exact ⟨rfl, Install.program_mem hstep⟩

section

variable {τ : Type} {argv argv' : List Bytes} {ex' : Runner τ} {state' : τ} {m m' : Machine} {f : Failure}
  {h' : Handover τ}

/-- Two failed installations of any kind, the first for a reason of its own and the second with a step that has exited
with a code.  The program of that step is one of three.  The status of the first tells the reason, that of the second the
code if it can hold it, and they are one status just where the two are one number. -/
theorem statuses_agree_iff (hf : (runInstall argv ex state m).1 = .error (.failure f)) (hown : f.isOfStep = false)
    (hh : h' ∈ (runInstall argv' ex'.traced (state', []) m').2.1.2) (hc : h'.reply.result = .ok c) (h0 : c ≠ 0) :
    let own := (finish ((runInstall argv ex state m).1, (runInstall argv ex state m).2.2)).1
    let ofStep := (finish ((runInstall argv' ex' state' m').1, (runInstall argv' ex' state' m').2.2)).1
    (own : Int) = f.exitStatus ∧ f.exitStatus ∈ Failure.ownStatuses ∧
    (runInstall argv' ex' state' m').1 = .error (.failure (.stepFailed h'.step.name h'.step.shown c)) ∧
    h'.step.program ∈ Install.programs ∧
    (ofStep : Int) = (if 1 ≤ c ∧ c ≤ 255 then c else 1) ∧
    (own = ofStep ↔ c = f.exitStatus) := by
  obtain ⟨hfailed, hprogram⟩ := runInstall_of_code hh hc h0
  obtain ⟨seen, hrecord⟩ := runInstall_traced argv' ex' state' [] m'
  rw [hrecord] at hfailed
  dsimp only at hfailed ⊢
  rw [hf, hfailed]
  have hown' := Failure.exitStatus_mem_own hown
  have hstatus : ((Stop.failure f).status : Int) = f.exitStatus := Stop.status_failure f
  have hcode : ((Stop.failure (.stepFailed h'.step.name h'.step.shown c)).status : Int) =
      if 1 ≤ c ∧ c ≤ 255 then c else 1 := Stop.status_failure _
  refine ⟨hstatus, hown', rfl, hprogram, hcode, ?_⟩
  simp only [finish]
  rw [← Int.ofNat_inj, hstatus, hcode]
  simp only [Failure.ownStatuses, List.mem_cons, List.not_mem_nil, or_false] at hown'
  split <;> omega

end

/-- The status of a missing program, and that of a step whose code would come to the same one if it were cut to a byte. -/
theorem statuses_agree_iff_folded :
    let project : Machine := .ofFiles [(["CMakeLists.txt"], .file false [])]
    let cues : List Runner.Cue := [.code 325]
    let missing := runInstall installArgs Runner.starting () project
    let failed := runInstall installArgs Runner.rehearsed cues exitingTools
    (runInstall installArgs Runner.rehearsed.traced (cues, []) exitingTools).2.1.2.map (·.reply.result) = [.ok 325] ∧
      missing.1 = .error (.failure (.toolMissing "cmake".toList "cmake".toList)) ∧
      ((finish (missing.1, missing.2.2)).1 : Int) = 69 ∧ ((finish (failed.1, failed.2.2)).1 : Int) = 1 := by
  intro project cues missing failed
  have hhanded : (runInstall installArgs Runner.rehearsed.traced (cues, []) exitingTools).2.1.2.map (·.reply.result) =
      [.ok 325] := by rfl
  have hmissing : missing.1 = .error (.failure (.toolMissing "cmake".toList "cmake".toList)) := by rfl
  obtain ⟨h, hh, hc⟩ := List.mem_map.1 (hhanded ▸ List.mem_singleton_self _)
  obtain ⟨hown, -, -, -, hof, -⟩ := statuses_agree_iff hmissing rfl hh hc (by decide)
  exact ⟨hhanded, hmissing, hown, hof⟩

def bogusArgs : List Bytes := ["install-fofimon", "--bogus"].map fun a => utf8 a.toList

theorem refusal_told_like_step :
    (∃ d, (runInstall bogusArgs Runner.starting () (withLog exitingTools)).1 =
        .error (.failure (.refusedArguments d))) ∧
      (runInstall installArgs Runner.starting.traced ((), []) (withLog exitingTools)).2.1.2.map
        (fun h => (h.step.program, h.reply.result.toOption)) = [(utf8 "cmake".toList, some 64)] ∧
      (mainInstall bogusArgs exitingTools).1 = 64 ∧ (mainInstall installArgs exitingTools).1 = 64 :=
  ⟨⟨_, by rfl⟩, by decide +kernel, by decide +kernel, by decide +kernel⟩

end Program

end Slipway
