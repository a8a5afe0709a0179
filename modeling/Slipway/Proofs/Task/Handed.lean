import Slipway.Proofs.Run.Sequence
import Slipway.Proofs.Task.Errand
set_option autoImplicit false

namespace Slipway

namespace Handover

variable {σ β : Type} {view : Machine → β} {first last : β} {hs : List (Handover σ)} {h : Handover σ}

theorem Unbroken.given_of_kept (hu : Unbroken view first hs last) (hk : ∀ k ∈ hs, view k.left.2 = view k.given.2)
    (hh : h ∈ hs) : view h.given.2 = first := by
  obtain ⟨front, back, rfl⟩ := List.append_of_mem hh
  exact hu.given_eq rfl fun k hf => hk k (by simp [hf])

end Handover

namespace Errand

variable {σ α : Type} {ex : Runner σ} {state : σ} {ready : Except Failure (Errand α) × Machine} {h : Handover σ}

/-- The record of an errand under way: it was ready, its directory was entered, and from there the steps were handed over
in sequence, with nobody but the runner changing what is neither output nor log. -/
structure UnderWay (ex : Runner σ) (state : σ) (ready : Except Failure (Errand α) × Machine)
    (seen : List (Handover σ)) (e : Errand α) (way : WayBack) (inside : Machine) : Prop where
  prepared : ready.1 = .ok e
  entered : Run.enter ready.2 e.directory = .ok (way, inside)
  in_sequence : ∃ result, Run.InSequence ex e.steps (state, inside) seen result
  unbroken : ∀ (β : Type) (view : Machine → β), Machine.Quiet view →
    ∃ last, Handover.Unbroken view (view inside) seen last

theorem carryOut_traced (ex : Runner σ) (state : σ) (before : List (Handover σ))
    (ready : Except Failure (Errand α) × Machine) :
    ∃ seen, carryOut (perform ex.traced) (state, before) ready =
      ((carryOut (perform ex) state ready).1, ((carryOut (perform ex) state ready).2.1, before ++ seen),
        (carryOut (perform ex) state ready).2.2) := by
  obtain ⟨f | e, m⟩ := ready
  · exact ⟨[], by simp [carryOut]⟩
  · obtain ⟨seen, hrun, -, -⟩ := perform_traced ex e.directory e.steps state before m
    refine ⟨seen, ?_⟩
    simp only [carryOut, hrun]
    rcases perform ex e.directory e.steps state m with ⟨_ | _, _, _⟩ <;> rfl

theorem handed_over (hh : h ∈ (carryOut (perform ex.traced) (state, []) ready).2.1.2) :
    ∃ e way inside,
      UnderWay ex state ready (carryOut (perform ex.traced) (state, []) ready).2.1.2 e way inside := by
  obtain ⟨f | e, m⟩ := ready
  · simp [carryOut] at hh
  obtain ⟨hstate, -, -⟩ := carryOut_rest (perform ex.traced) (state, []) e m
  rw [hstate] at hh ⊢
  cases he : Run.enter m e.directory with
  | error f => simp [perform, he] at hh
  | ok r =>
    obtain ⟨way, inside⟩ := r
    obtain ⟨seen, hrun, hseq, hu⟩ := Run.inOrder_traced ex e.steps state [] inside
    have hseen : (perform ex.traced e.directory e.steps (state, []) m).2.1.2 = seen := by simp [perform, he, hrun]
    rw [hseen]
    exact ⟨e, way, inside, rfl, he, ⟨_, hseq⟩, fun β view hq => ⟨_, hu β view hq⟩⟩

theorem answered (hh : h ∈ (carryOut (perform ex.traced) (state, []) ready).2.1.2) :
    ex h.step h.given.1 h.given.2 = (h.reply, h.left) := by
  obtain ⟨e, way, inside, hu⟩ := handed_over hh
  obtain ⟨result, hseq⟩ := hu.in_sequence
  exact hseq.answered h hh

theorem UnderWay.given_first {seen : List (Handover σ)} {e : Errand α} {way : WayBack} {inside : Machine} {s : Step}
    {rest : List Step} {β : Type} {view : Machine → β} (hu : UnderWay ex state ready seen e way inside)
    (he : e.steps = s :: rest) (hs : s ∉ rest) (hq : Machine.Quiet view) (hh : h ∈ seen) (hstep : h.step = s) :
    view h.given.2 = view inside := by
  obtain ⟨result, hseq⟩ := hu.in_sequence
  obtain ⟨last, hunbroken⟩ := hu.unbroken β view hq
  obtain ⟨front, back, rfl⟩ := List.append_of_mem hh
  have hsteps := hseq.first_steps
  rw [he] at hsteps
  cases front with
  | nil => exact hunbroken.1
  | cons k front =>
    rw [List.cons_append, List.map_cons, List.cons_prefix_cons] at hsteps
    have hmem : h.step ∈ rest := hsteps.2.subset (by simp)
    exact absurd (hstep ▸ hmem) hs

theorem carryOut_ready (ex : Runner σ) (state : σ) (e : Errand α) (m : Machine) :
    let run := carryOut (perform ex.traced) (state, []) (.ok e, m)
    Handover.Unbroken Machine.tree m.tree run.2.1.2 run.2.2.tree ∧
      ((∃ f, run = (.error f, (state, []), m)) ∨
        ∃ way inside result, Run.enter m e.directory = .ok (way, inside) ∧
          Run.InSequence ex e.steps (state, inside) run.2.1.2 result ∧ run.1 = result.map fun _ => e.answer) := by
  intro run
  obtain ⟨seen, hperform, htree, hentered⟩ := perform_traced ex e.directory e.steps state [] m
  obtain ⟨hstate, -, hfinal⟩ := carryOut_rest (perform ex.traced) (state, []) e m
  have hseen : run.2.1.2 = seen := by rw [hstate, hperform, List.nil_append]
  refine ⟨by rw [hseen, hfinal, hperform]; exact htree, ?_⟩
  cases he : Run.enter m e.directory with
  | error f => exact .inl ⟨f, by simp [run, carryOut, perform, he]⟩
  | ok r =>
    obtain ⟨way, inside⟩ := r
    rw [he] at hentered
    refine .inr ⟨way, inside, _, rfl, hseen ▸ hentered.1, ?_⟩
    rw [carryOut_answer]
    simp only [Except.bind, hperform]

end Errand

theorem pack_traced {σ : Type} (s : Settings) (r : PackRequest) (today : Date) (ex : Runner σ) (state : σ)
    (before : List (Handover σ)) (m : Machine) :
    ∃ seen, pack s r today ex.traced (state, before) m =
      ((pack s r today ex state m).1, ((pack s r today ex state m).2.1, before ++ seen),
        (pack s r today ex state m).2.2) := by
  rw [pack_eq, pack_eq]
  exact Errand.carryOut_traced ex state before _

end Slipway
