import Slipway.Proofs.Machine.Alike
import Slipway.Tools
set_option autoImplicit false

namespace Slipway

section Occurrences

variable {α : Type} [BEq α] [LawfulBEq α]

theorem firstOccurrences_filter (p : α → Bool) (xs : List α) :
    firstOccurrences (xs.filter p) = (firstOccurrences xs).filter p := by
  induction xs with
  | nil => rfl
  | cons x xs ih =>
    cases hx : p x with
    | true =>
      rw [List.filter_cons_of_pos hx, firstOccurrences, firstOccurrences, List.filter_cons_of_pos hx, ih,
        List.filter_filter, List.filter_filter]
      simp only [Bool.and_comm]
    | false =>
      have hsame : (fun y => p y && y != x) = p := by
        funext y
        by_cases hy : y = x
        · simp [hy, hx]
        · simp [hy]
      rw [List.filter_cons_of_neg (by simp [hx]), firstOccurrences, List.filter_cons_of_neg (by simp [hx]), ih,
        List.filter_filter, hsame]

theorem find?_firstOccurrences (p : α → Bool) (xs : List α) : (firstOccurrences xs).find? p = xs.find? p := by
  have hhead (ys : List α) : (firstOccurrences ys).head? = ys.head? := by cases ys <;> rfl
  rw [← List.head?_filter, ← firstOccurrences_filter, hhead, List.head?_filter]

end Occurrences

namespace Tools

section Providers

variable {tool package : Text}

theorem lookup_providers : providers.lookup tool = some package ↔ (tool, package) ∈ providers := by
  have hkeys : (providers.map Prod.fst).Nodup := by decide
  rw [List.lookup_eq_some_iff]
  constructor
  case mp =>
    rintro ⟨before, after, h, -⟩
    rw [h]
    simp
  case mpr =>
    intro h
    obtain ⟨before, after, h⟩ := List.append_of_mem h
    refine ⟨before, after, h, fun p hp => ?_⟩
    rw [h, List.map_append, List.nodup_append] at hkeys
    simpa using fun heq => hkeys.2.2 p.1 (List.mem_map_of_mem hp) tool (by simp) heq.symm

/-- The package to be installed for a tool is the one in the table, or else the one of the tool's own name. -/
theorem providerOf_eq_iff :
    providerOf tool = package ↔
      (tool, package) ∈ providers ∨ (∀ other, (tool, other) ∉ providers) ∧ package = tool := by
  simp only [← lookup_providers, providerOf]
  cases providers.lookup tool <;> simp [eq_comm]

end Providers

/-- The step names a program, and it is not to be found. -/
def Lacks (m : Machine) (s : Step) : Prop := s.program ≠ [] ∧ m.findProgram? s.program = none

instance (m : Machine) (s : Step) : Decidable (Lacks m s) := inferInstanceAs (Decidable (_ ∧ _))

/-- The step lacks its program, and none of the steps before it does. -/
def FirstToLack (m : Machine) (steps : List Step) (s : Step) : Prop :=
  ∃ before after, steps = before ++ s :: after ∧ (∀ s' ∈ before, ¬ Lacks m s') ∧ Lacks m s

/-- The programs of these steps are no obstacle: no step lacks its own, or nobody looks for them. -/
def Allow (s : Settings) (m : Machine) (steps : List Step) : Prop :=
  s.skipToolCheck = true ∨ ∀ step ∈ steps, ¬ Lacks m step

section Lacking

variable {m : Machine} {steps : List Step} {step : Step} {f : Failure}

def lacking? (m : Machine) (steps : List Step) : Option Step := steps.find? fun s => decide (Lacks m s)

theorem lacking?_eq_none_iff : lacking? m steps = none ↔ ∀ s ∈ steps, ¬ Lacks m s := by
  simp [lacking?]

theorem lacking?_eq_some_iff : lacking? m steps = some step ↔ FirstToLack m steps step := by
  rw [lacking?, List.find?_eq_some_iff_append]
  constructor
  case mp =>
    rintro ⟨hs, before, after, hsteps, hbefore⟩
    exact ⟨before, after, hsteps, by simpa using hbefore, by simpa using hs⟩
  case mpr =>
    rintro ⟨before, after, hsteps, hbefore, hs⟩
    exact ⟨by simpa using hs, before, after, hsteps, by simpa using hbefore⟩

theorem FirstToLack.unique {other : Step} (h : FirstToLack m steps step) (h' : FirstToLack m steps other) :
    step = other :=
  Option.some.inj ((lacking?_eq_some_iff.2 h).symm.trans (lacking?_eq_some_iff.2 h'))

theorem FirstToLack.lacks (h : FirstToLack m steps step) : step ∈ steps ∧ Lacks m step := by
  obtain ⟨before, after, rfl, -, hs⟩ := h
  exact ⟨by simp, hs⟩

theorem FirstToLack.singleton (h : Lacks m step) : FirstToLack m [step] step := ⟨[], [], rfl, by simp, h⟩

theorem exists_firstToLack (h : ¬ ∀ s ∈ steps, ¬ Lacks m s) : ∃ first, FirstToLack m steps first := by
  rw [← lacking?_eq_none_iff] at h
  obtain ⟨first, hfirst⟩ := Option.ne_none_iff_exists'.1 h
  exact ⟨first, lacking?_eq_some_iff.1 hfirst⟩

theorem requireAll_result (m : Machine) (ps : List Bytes) (m' : Machine) :
    (requireAll (ps.map (check m)) m').1 =
      match ps.find? fun p => (m.findProgram? p).isNone with
      | none => .ok ()
      | some p => .error (.toolMissing (lossy p) (providerOf (lossy p))) := by
  induction ps generalizing m' with
  | nil => rfl
  | cons p ps ih =>
    cases hp : m.findProgram? p with
    | none => simp [requireAll, check, hp]
    | some path => simpa [requireAll, check, hp] using ih _

theorem find?_programs (m : Machine) (steps : List Step) :
    ((programs steps).find? fun p => (m.findProgram? p).isNone) = (lacking? m steps).map Step.program := by
  have hlacks : ((fun p => decide ((p != []) = true ∧ (m.findProgram? p).isNone = true)) ∘ Step.program) =
      fun s => decide (Lacks m s) := by
    funext s
    by_cases hs : s.program = [] <;> simp [Lacks, hs]
  rw [programs, find?_firstOccurrences, List.find?_filter, List.find?_map, hlacks, lacking?]

theorem require_result (m : Machine) (steps : List Step) :
    (require m steps).1 =
      match lacking? m steps with
      | none => .ok ()
      | some s => .error (.toolMissing (lossy s.program) (providerOf (lossy s.program))) := by
  have hresult := requireAll_result m (programs steps) m
  rw [find?_programs] at hresult
  rw [require, checks, hresult]
  cases lacking? m steps <;> rfl

theorem require_eq_ok_iff : (require m steps).1 = .ok () ↔ ∀ s ∈ steps, ¬ Lacks m s := by
  rw [require_result, ← lacking?_eq_none_iff]
  cases lacking? m steps <;> simp

theorem require_eq_error_iff :
    (require m steps).1 = .error f ↔
      ∃ s, FirstToLack m steps s ∧ f = .toolMissing (lossy s.program) (providerOf (lossy s.program)) := by
  simp only [require_result, ← lacking?_eq_some_iff]
  cases lacking? m steps <;> simp [eq_comm]

end Lacking

section Settings

variable {s : Settings} {m m' : Machine} {steps : List Step} {step : Step} {f : Failure}

theorem requireFor_eq_ok_iff : (requireFor s steps m).1 = .ok () ↔ Allow s m steps := by
  unfold requireFor Allow
  split
  case isTrue hskip => simp [hskip]
  case isFalse hskip => simpa [hskip] using require_eq_ok_iff

theorem requireFor_eq_error_iff :
    (requireFor s steps m).1 = .error f ↔
      s.skipToolCheck = false ∧
        ∃ step, FirstToLack m steps step ∧ f = .toolMissing (lossy step.program) (providerOf (lossy step.program)) := by
  unfold requireFor
  split
  case isTrue hskip => simp [hskip]
  case isFalse hskip => simpa [hskip] using require_eq_error_iff

theorem not_allow_of_lacks (hskip : s.skipToolCheck = false) (hstep : step ∈ steps) (hl : Lacks m step) :
    ¬ Allow s m steps := by
  rintro (hskip' | hnone)
  · rw [hskip] at hskip'
    contradiction
  · exact hnone step hstep hl

theorem Allow.found (ht : Allow s m steps) (hskip : s.skipToolCheck = false) (hstep : step ∈ steps)
    (hne : step.program ≠ []) : m.findProgram? step.program ≠ none := fun hnone =>
  not_allow_of_lacks hskip hstep ⟨hne, hnone⟩ ht

theorem FirstToLack.not_allow (h : FirstToLack m steps step) (hskip : s.skipToolCheck = false) :
    ¬ Allow s m steps :=
  not_allow_of_lacks hskip h.lacks.1 h.lacks.2

theorem lacking_of_not_allow (h : ¬ Allow s m steps) :
    s.skipToolCheck = false ∧ ∃ step, FirstToLack m steps step := by
  obtain ⟨hskip, hall⟩ := not_or.1 h
  exact ⟨Bool.eq_false_iff.2 hskip, exists_firstToLack hall⟩

end Settings

end Tools

namespace Machine

section Quiet

variable {α : Type} {view : Machine → α} (hq : Quiet view) {s : Settings} {steps : List Step} {m m' : Machine}
  {result : Except Failure Unit}
include hq

theorem Quiet.requireAll (cs : List Tools.Check) (m : Machine) : view (Tools.requireAll cs m).2 = view m := by
  induction cs generalizing m with
  | nil => rfl
  | cons c rest ih =>
    cases hc : c.path with
    | none => simp [Tools.requireAll, hc, hq.emit]
    | some path => simp [Tools.requireAll, hc, ih, hq.emit]

theorem Quiet.requireFor (h : Tools.requireFor s steps m = (result, m')) : view m' = view m := by
  unfold Tools.requireFor at h
  split at h
  · rw [← (Prod.mk.inj h).2]
  · rw [← hq.requireAll _ m, ← Tools.require, h]

end Quiet

namespace Alike

variable {m m' : Machine} (h : Alike m m')
include h

theorem findProgram? (program : Bytes) : m'.findProgram? program = m.findProgram? program := by
  have hcandidates : m'.candidates program = m.candidates program := by
    simp only [Machine.candidates, Machine.expandHome, h.currentDir?, h.env]
  have hprogram : m'.isProgram = m.isProgram := by
    funext path
    rw [Machine.isProgram, Machine.isProgram, h.locate]
  rw [Machine.findProgram?, Machine.findProgram?, hcandidates, hprogram]

theorem lacks : Tools.Lacks m' = Tools.Lacks m := by
  funext s
  rw [Tools.Lacks, Tools.Lacks, h.findProgram?]

theorem firstToLack {steps : List Step} {step : Step} :
    Tools.FirstToLack m' steps step = Tools.FirstToLack m steps step := by
  rw [Tools.FirstToLack, Tools.FirstToLack, h.lacks]

theorem allow {s : Settings} {steps : List Step} : Tools.Allow s m' steps = Tools.Allow s m steps := by
  rw [Tools.Allow, Tools.Allow, h.lacks]

end Alike

end Machine

theorem Tools.alike_requireFor {s : Settings} {steps : List Step} {m m' : Machine} {result : Except Failure Unit}
    (h : requireFor s steps m = (result, m')) : m.Alike m' :=
  ⟨Machine.quiet_tree.requireFor h, Machine.quiet_place.requireFor h, Machine.quiet_env.requireFor h⟩

end Slipway
