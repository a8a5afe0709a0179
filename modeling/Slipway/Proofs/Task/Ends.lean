import Slipway.Proofs.Task.Handed
import Slipway.Proofs.Task.Judged
set_option autoImplicit false

namespace Slipway

namespace Handover

variable {h : Handover Unit} {n k status : Nat} {f : Failure}

def started (h : Handover Unit) : Except Cause (Ending × Machine) := h.given.2.start (h.step.program :: h.step.args)

def Exited (h : Handover Unit) (n : Nat) : Prop := ∃ m, h.started = .ok (.exited n, m)

/-- A step that ends the run: the failure that tells of it, and the status that stands for that. -/
inductive Fails (h : Handover Unit) : Failure → Nat → Prop
  | notStarted {cause : Cause} (hs : h.started = .error cause) : Fails h (.notStarted (lossy h.step.program) cause) 71
  | exited {n : Nat} (hs : h.Exited n) (hn : n ≠ 0) :
    Fails h (.stepFailed h.step.name h.step.shown n) (if n ≤ 255 then n else 1)
  | killed {signal : Nat} {m : Machine} (hs : h.started = .ok (.killed signal, m)) :
    Fails h (.stepFailed h.step.name h.step.shown (-1)) 1

theorem Exited.unique (hn : h.Exited n) (hk : h.Exited k) : n = k := by
  obtain ⟨m, hm⟩ := hn
  obtain ⟨m', hm'⟩ := hk
  rw [hm] at hm'
  cases hm'
  rfl

theorem Fails.exited_of_exited (hf : h.Fails f status) (hs : h.Exited n) :
    n ≠ 0 ∧ status = if n ≤ 255 then n else 1 := by
  cases hf with
  | notStarted hs' =>
    obtain ⟨m, hm⟩ := hs
    rw [hs'] at hm
    cases hm
  | exited hs' hn =>
    obtain rfl := hs'.unique hs
    exact ⟨hn, rfl⟩
  | killed hs' =>
    obtain ⟨m, hm⟩ := hs
    rw [hs'] at hm
    cases hm

theorem Fails.status_ne_zero (hf : h.Fails f status) : status ≠ 0 := by
  cases hf with
  | notStarted => decide
  | exited _ hn => split <;> omega
  | killed => decide

theorem Fails.exited_of_status (hf : h.Fails f status) (h1 : status ≠ 1) (h71 : status ≠ 71) : h.Exited status := by
  cases hf with
  | notStarted => exact absurd rfl h71
  | exited hs hn =>
    split
    · exact hs
    next hgt =>
      rw [if_neg hgt] at h1
      exact absurd rfl h1
  | killed => exact absurd rfl h1

theorem succeeded_or_fails (ha : Runner.starting h.step h.given.1 h.given.2 = (h.reply, h.left)) :
    h.Succeeded ∧ h.Exited 0 ∨ (∃ f status, h.Fails f status ∧ h.reply.result = .error f) ∨
      ∃ code status, h.Fails (.stepFailed h.step.name h.step.shown code) status ∧ h.reply.result = .ok code ∧
        code ≠ 0 := by
  unfold Runner.starting at ha
  split at ha
  case h_1 n m hm =>
    have hs : h.Exited n := ⟨m, hm⟩
    have hr : h.reply.result = .ok (n : Int) := by rw [← (Prod.mk.inj ha).1]
    by_cases hn : n = 0
    · subst hn
      exact .inl ⟨hr, hs⟩
    · exact .inr (.inr ⟨n, _, .exited hs hn, hr, by omega⟩)
  case h_2 signal m hm =>
    exact .inr (.inr ⟨-1, _, .killed hm, by rw [← (Prod.mk.inj ha).1], by decide⟩)
  case h_3 cause hm =>
    exact .inr (.inl ⟨_, _, .notStarted hm, by rw [← (Prod.mk.inj ha).1]⟩)

end Handover

namespace Run

variable {steps : List Step} {here : Unit × Machine} {seen : List (Handover Unit)} {result : Except Failure Unit}

theorem InSequence.exited (hseq : InSequence Runner.starting steps here seen result) {h : Handover Unit} (hh : h ∈ seen)
    (hs : h.Succeeded) : h.Exited 0 := by
  rcases Handover.succeeded_or_fails (hseq.answered h hh) with ⟨-, he⟩ | ⟨f, _, -, hr⟩ | ⟨code, _, -, hr, hc⟩
  · exact he
  · rw [Handover.Succeeded, hr] at hs
    cases hs
  · rw [Handover.Succeeded, hr] at hs
    exact absurd (Except.ok.inj hs) hc

theorem InSequence.done_or_fails (hseq : InSequence Runner.starting steps here seen result) :
    (result = .ok () ∧ seen.map Handover.step = steps ∧ ∀ h ∈ seen, h.Exited 0) ∨
      ∃ front h f status, seen = front ++ [h] ∧ (∀ k ∈ front, k.Exited 0) ∧ h.Fails f status ∧ result = .error f := by
  rcases List.eq_nil_or_concat seen with rfl | ⟨front, h, rfl⟩
  · exact .inl ⟨hseq.ok_iff.2 (by simp), hseq.to_the_end (by simp), by simp⟩
  rw [List.concat_eq_append] at hseq ⊢
  have hfront : ∀ k ∈ front, k.Succeeded := by simpa using hseq.before_last
  have hexited : ∀ k ∈ front, k.Exited 0 := fun k hk => hseq.exited (by simp [hk]) (hfront k hk)
  have hlast : h ∈ (front ++ [h]).getLast? := by simp
  rcases Handover.succeeded_or_fails (hseq.answered h (by simp)) with
    ⟨hs, he⟩ | ⟨f, status, hf, hr⟩ | ⟨code, status, hf, hr, hc⟩
  · have hall : ∀ k ∈ front ++ [h], k.Succeeded := by
      simpa [or_imp, forall_and] using ⟨hfront, hs⟩
    exact .inl ⟨hseq.ok_iff.2 hall, hseq.to_the_end hall, fun k hk => hseq.exited hk (hall k hk)⟩
  · exact .inr ⟨front, h, f, status, rfl, hexited, hf, hseq.of_error h hlast f hr⟩
  · exact .inr ⟨front, h, _, status, rfl, hexited, hf, hseq.of_code h hlast code hr hc⟩

end Run

namespace Errand

def opened {α : Type} (make : Bytes → Machine → Except Failure Machine) (e : Errand α) (m : Machine) :
    Except Failure Machine :=
  (make e.directory m).bind fun made => (Run.enter made e.directory).map Prod.snd

def HandsOver {α : Type} (e : Errand α) (inside : Machine) (seen : List (Handover Unit)) (result : Except Failure Unit) :
    Prop :=
  ∃ here, inside.Alike here ∧ Run.InSequence Runner.starting e.steps ((), here) seen result

/-- The ends of a task of which these steps have been handed over: its answer, and the status that stands for it. -/
inductive Ends {α : Type} (s : Settings) (m : Machine) (make : Bytes → Machine → Except Failure Machine)
    (planned : Except Failure (Errand α)) : List (Handover Unit) → Except Failure Unit → Nat → Prop
  | unplanned {path : Bytes} {cause : Cause} (hp : planned = .error (.atPath path cause)) :
    Ends s m make planned [] (.error (.atPath path cause)) 74
  | lacking {e : Errand α} {step : Step} (hp : planned = .ok e) (hskip : s.skipToolCheck = false)
    (hl : Tools.FirstToLack m e.steps step) :
    Ends s m make planned [] (.error (.toolMissing (lossy step.program) (Tools.providerOf (lossy step.program)))) 69
  | blocked {e : Errand α} {path : Bytes} {cause : Cause} (hp : planned = .ok e) (ht : Tools.Allow s m e.steps)
    (ho : e.opened make m = .error (.atPath path cause)) : Ends s m make planned [] (.error (.atPath path cause)) 74
  | failed {e : Errand α} {inside : Machine} {front : List (Handover Unit)} {h : Handover Unit} {f : Failure}
    {status : Nat} (hp : planned = .ok e) (ht : Tools.Allow s m e.steps) (ho : e.opened make m = .ok inside)
    (hover : e.HandsOver inside (front ++ [h]) (.error f)) (hfront : ∀ k ∈ front, k.Exited 0) (hf : h.Fails f status) :
    Ends s m make planned (front ++ [h]) (.error f) status
  | done {e : Errand α} {inside : Machine} {seen : List (Handover Unit)} (hp : planned = .ok e)
    (ht : Tools.Allow s m e.steps) (ho : e.opened make m = .ok inside) (hover : e.HandsOver inside seen (.ok ()))
    (hsteps : seen.map Handover.step = e.steps) (hall : ∀ h ∈ seen, h.Exited 0) : Ends s m make planned seen (.ok ()) 0

variable {α : Type} {s : Settings} {m : Machine} {make : Bytes → Machine → Except Failure Machine}
  {planned : Except Failure (Errand α)} {e : Errand α} {seen : List (Handover Unit)} {result : Except Failure Unit}
  {status : Nat}

theorem atPath_of_enter {dir : Bytes} {f : Failure} (h : Run.enter m dir = .error f) :
    ∃ path cause, f = .atPath path cause := by
  unfold Run.enter at h
  split at h
  · exact ⟨_, _, (Except.error.inj h).symm⟩
  · split at h
    · exact ⟨_, _, (Except.error.inj h).symm⟩
    · cases h

theorem alike_opened {prepared : Machine} (hd : Machine.AlikeAnswers (make e.directory m) (.ok prepared)) :
    Machine.AlikeAnswers (e.opened make m) ((Run.enter prepared e.directory).map Prod.snd) := by
  obtain ⟨made, hmade, hlike⟩ := hd.exists_ok
  rw [opened, hmade]
  exact hlike.enter e.directory

theorem exists_ends {ready : Except Failure (Errand α) × Machine} (hj : Judged s m make planned ready) :
    let run := carryOut (perform Runner.starting.traced) ((), []) ready
    ∃ status, Ends s m make planned run.2.1.2 (run.1.map fun _ => ()) status := by
  cases hj with
  | unplanned hp => exact ⟨_, .unplanned hp⟩
  | lacking hp hskip hl => exact ⟨_, .lacking hp hskip hl⟩
  | blocked hp ht hd => exact ⟨_, .blocked hp ht (by rw [opened, hd]; rfl)⟩
  | @ready e prepared hp ht hd =>
    have ho := alike_opened hd
    cases he : Run.enter prepared e.directory with
    | error f =>
      obtain ⟨path, cause, rfl⟩ := atPath_of_enter he
      rw [he] at ho
      simp only [carryOut, perform, he]
      exact ⟨_, .blocked hp ht ho.eq_error⟩
    | ok r =>
      obtain ⟨way, here⟩ := r
      rw [he] at ho
      obtain ⟨inside, hinside, hlike⟩ := ho.exists_ok
      obtain ⟨seen, hrun, hseq, -⟩ := Run.inOrder_traced Runner.starting e.steps () [] here
      simp only [carryOut, perform, he, hrun, List.nil_append]
      rcases hseq.done_or_fails with ⟨hr, hsteps, hall⟩ | ⟨front, h, f, status, rfl, hfront, hf, hr⟩
      · rw [hr] at hseq ⊢
        exact ⟨_, .done hp ht hinside ⟨here, hlike, hseq⟩ hsteps hall⟩
      · rw [hr] at hseq ⊢
        exact ⟨_, .failed hp ht hinside ⟨here, hlike, hseq⟩ hfront hf⟩

theorem Ends.zero_iff (he : Ends s m make planned seen result status) (hne : ∀ e, planned = .ok e → e.steps ≠ []) :
    status = 0 ↔ ∃ e, planned = .ok e ∧ seen.map Handover.step = e.steps ∧ ∀ h ∈ seen, h.Exited 0 := by
  cases he with
  | unplanned hp => simp [hp]
  | lacking hp => simpa [hp, eq_comm] using hne _ hp
  | blocked hp => simpa [hp, eq_comm] using hne _ hp
  | failed hp ht ho hover hfront hf =>
    refine iff_of_false hf.status_ne_zero fun hdone => ?_
    obtain ⟨e, -, -, hall⟩ := hdone
    exact (hf.exited_of_exited (hall _ (by simp))).1 rfl
  | done hp ht ho hover hsteps hall => exact iff_of_true rfl ⟨_, hp, hsteps, hall⟩

theorem Ends.sixtyFour_iff (he : Ends s m make planned seen result status) :
    status = 64 ↔ ∃ h, seen.getLast? = some h ∧ h.Exited 64 := by
  cases he with
  | unplanned => simp
  | lacking => simp
  | blocked => simp
  | failed hp ht ho hover hfront hf =>
    simp only [List.getLast?_append, List.getLast?_singleton, Option.some_or, Option.some.injEq, exists_eq_left']
    refine ⟨fun h64 => ?_, fun hs => (hf.exited_of_exited hs).2⟩
    rw [h64] at hf
    exact hf.exited_of_status (by decide) (by decide)
  | done hp ht ho hover hsteps hall =>
    refine iff_of_false (by decide) fun ⟨h, hlast, hs⟩ => ?_
    have hzero := hs.unique (hall h (List.mem_of_getLast? hlast))
    contradiction

theorem Ends.of_lacks (he : Ends s m make planned seen result status) (hp : planned = .ok e)
    (hskip : s.skipToolCheck = false) {step : Step} (hstep : step ∈ e.steps) (hl : Tools.Lacks m step) :
    seen = [] ∧ status = 69 := by
  have hnot {e' : Errand α} (hp' : planned = .ok e') : ¬ Tools.Allow s m e'.steps := by
    obtain rfl := Except.ok.inj (hp.symm.trans hp')
    exact Tools.not_allow_of_lacks hskip hstep hl
  cases he with
  | unplanned hp' =>
    rw [hp] at hp'
    cases hp'
  | lacking => exact ⟨rfl, rfl⟩
  | blocked hp' ht => exact absurd ht (hnot hp')
  | failed hp' ht => exact absurd ht (hnot hp')
  | done hp' ht => exact absurd ht (hnot hp')

end Errand

end Slipway
