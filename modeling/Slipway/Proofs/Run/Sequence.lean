import Slipway.Proofs.Run.Enter
set_option autoImplicit false

/-!
The order of a run.  A runner that keeps a record (`Runner.traced`) shows which steps it is given, in which state and
what it answers; the record of any run has the shape `Run.InSequence` (`inOrder_traced`, `perform_in_sequence`).
Nothing is assumed of the runner.
-/

namespace Slipway

/-- A step that has been handed over: what the runner was given with it, and what it has answered and left. -/
structure Handover (σ : Type) where
  step : Step
  given : σ × Machine
  reply : Reply
  left : σ × Machine

namespace Handover

variable {σ α : Type}

def Succeeded (h : Handover σ) : Prop := h.reply.result = .ok 0

/-- Each step is given what is there with its echo printed, and what it has left is there for the next, with its time
printed. -/
def Linked : σ × Machine → List (Handover σ) → Prop
  | _, [] => True
  | here, h :: hs =>
    h.given = (here.1, here.2.printLine (Run.echo h.step)) ∧
      Linked (h.left.1, h.left.2.printLine (Run.timing h.step h.reply.elapsed)) hs

/-- Nobody but the runner changes what is viewed: it is `first` until the first step, then what each step has left,
and `last` at the end. -/
def Unbroken (view : Machine → α) : α → List (Handover σ) → α → Prop
  | first, [], last => last = first
  | first, h :: hs, last => view h.given.2 = first ∧ Unbroken view (view h.left.2) hs last

theorem Linked.echoed {here : σ × Machine} {hs : List (Handover σ)} (hl : Linked here hs) :
    ∀ h ∈ hs, ∃ before, h.given.2 = Machine.printLine before (Run.echo h.step) := by
  induction hs generalizing here with
  | nil => simp
  | cons k hs ih =>
    obtain ⟨hk, hrest⟩ := hl
    rintro h (_ | ⟨_, hh⟩)
    · exact ⟨here.2, by rw [hk]⟩
    · exact ih hrest h hh

theorem Unbroken.given_eq {view : Machine → α} {first last : α} {hs front back : List (Handover σ)} {h : Handover σ}
    (hu : Unbroken view first hs last) (hs_eq : hs = front ++ h :: back)
    (hf : ∀ k ∈ front, view k.left.2 = view k.given.2) : view h.given.2 = first := by
  induction front generalizing hs first with
  | nil =>
    subst hs_eq
    exact hu.1
  | cons k front ih =>
    subst hs_eq
    obtain ⟨hk, hrest⟩ := hu
    have hleft := hf k (by simp)
    rw [hleft, hk] at hrest
    exact ih hrest rfl fun k' hk' => hf k' (by simp [hk'])

end Handover

namespace Runner

def traced {σ : Type} (ex : Runner σ) : Runner (σ × List (Handover σ)) := fun s (state, seen) m =>
  let (reply, left) := ex s state m
  (reply, (left.1, seen ++ [⟨s, (state, m), reply, left⟩]), left.2)

end Runner

namespace Run

variable {σ : Type}

structure InSequence (ex : Runner σ) (steps : List Step) (here : σ × Machine) (seen : List (Handover σ))
    (result : Except Failure Unit) : Prop where
  first_steps : seen.map Handover.step <+: steps
  answered : ∀ h ∈ seen, ex h.step h.given.1 h.given.2 = (h.reply, h.left)
  linked : Handover.Linked here seen
  before_last : ∀ h ∈ seen.dropLast, h.Succeeded
  to_the_end : (∀ h ∈ seen, h.Succeeded) → seen.map Handover.step = steps
  ok_iff : result = .ok () ↔ ∀ h ∈ seen, h.Succeeded
  of_error : ∀ h ∈ seen.getLast?, ∀ f, h.reply.result = .error f → result = .error f
  of_code : ∀ h ∈ seen.getLast?, ∀ n, h.reply.result = .ok n → n ≠ 0 →
    result = .error (.stepFailed h.step.name h.step.shown n)

theorem InSequence.nil (ex : Runner σ) (here : σ × Machine) : InSequence ex [] here [] (.ok ()) := by
  constructor <;> simp [Handover.Linked]

theorem InSequence.stop {ex : Runner σ} (h : Handover σ) {rest : List Step} {here : σ × Machine} {f : Failure}
    (hx : ex h.step h.given.1 h.given.2 = (h.reply, h.left))
    (hg : h.given = (here.1, here.2.printLine (echo h.step)))
    (hf : h.reply.result = .error f ∨
      ∃ n, h.reply.result = .ok n ∧ n ≠ 0 ∧ f = .stepFailed h.step.name h.step.shown n) :
    InSequence ex (h.step :: rest) here [h] (.error f) := by
  have hs : ¬ h.Succeeded := by
    unfold Handover.Succeeded
    rcases hf with hf | ⟨n, hn, h0, -⟩
    · simp [hf]
    · simp [hn, h0]
  constructor
  case first_steps => simp
  case answered => simpa using hx
  case linked => exact ⟨hg, trivial⟩
  case before_last => simp
  case to_the_end => simp [hs]
  case ok_iff => simp [hs]
  case of_error =>
    simp only [List.getLast?_singleton, Option.mem_def, Option.some.injEq]
    rintro _ rfl g hg
    rcases hf with hf | ⟨n, hn, -⟩
    · rw [hf] at hg
      rw [Except.error.inj hg]
    · simp [hn] at hg
  case of_code =>
    simp only [List.getLast?_singleton, Option.mem_def, Option.some.injEq]
    rintro _ rfl n hn -
    rcases hf with hf | ⟨k, hk, -, rfl⟩
    · simp [hf] at hn
    · rw [hk] at hn
      rw [Except.ok.inj hn]

theorem InSequence.cons {ex : Runner σ} (h : Handover σ) {rest : List Step} {here : σ × Machine}
    {seen : List (Handover σ)} {result : Except Failure Unit}
    (hx : ex h.step h.given.1 h.given.2 = (h.reply, h.left))
    (hg : h.given = (here.1, here.2.printLine (echo h.step))) (hs : h.Succeeded)
    (hrest : InSequence ex rest (h.left.1, h.left.2.printLine (timing h.step h.reply.elapsed)) seen result) :
    InSequence ex (h.step :: rest) here (h :: seen) result := by
  constructor
  case first_steps =>
    rw [List.map_cons, List.cons_prefix_cons]
    exact ⟨rfl, hrest.first_steps⟩
  case answered => simpa [hx] using hrest.answered
  case linked => exact ⟨hg, hrest.linked⟩
  case before_last =>
    cases seen with
    | nil => simp
    | cons k seen => simpa [hs] using hrest.before_last
  case to_the_end =>
    intro hall
    rw [List.map_cons, hrest.to_the_end fun k hk => hall k (by simp [hk])]
  case ok_iff => simpa [hs] using hrest.ok_iff
  case of_error =>
    cases seen with
    | nil =>
      simp only [List.getLast?_singleton, Option.mem_def, Option.some.injEq]
      rintro _ rfl f hf
      simp [Handover.Succeeded, hf] at hs
    | cons k seen => simpa using hrest.of_error
  case of_code =>
    cases seen with
    | nil =>
      simp only [List.getLast?_singleton, Option.mem_def, Option.some.injEq]
      rintro _ rfl n hn h0
      simp [Handover.Succeeded, hn, h0] at hs
    | cons k seen => simpa using hrest.of_code

theorem inOrder_traced (ex : Runner σ) (steps : List Step) (state : σ) (before : List (Handover σ)) (m : Machine) :
    ∃ seen, inOrder ex.traced steps (state, before) m =
        ((inOrder ex steps state m).1, ((inOrder ex steps state m).2.1, before ++ seen),
          (inOrder ex steps state m).2.2) ∧
      InSequence ex steps (state, m) seen (inOrder ex steps state m).1 ∧
      ∀ (α : Type) (view : Machine → α), Machine.Quiet view →
        Handover.Unbroken view (view m) seen (view (inOrder ex steps state m).2.2) := by
  induction steps generalizing state before m with
  | nil => exact ⟨[], by simp [inOrder], .nil ex (state, m), fun _ _ _ => rfl⟩
  | cons s rest ih =>
    let given := (state, m.printLine (echo s))
    rcases hx : ex s given.1 given.2 with ⟨⟨result, d⟩, left⟩
    let h : Handover σ := ⟨s, given, ⟨result, d⟩, left⟩
    have hgiven (α : Type) (view : Machine → α) (hq : Machine.Quiet view) : view h.given.2 = view m :=
      hq.printLine m _
    -- The first step either ends the run or goes before the handovers of the rest.
    cases result with
    | error f =>
      have hstop : InSequence ex (s :: rest) (state, m) [h] (.error f) := .stop h hx rfl (.inl rfl)
      refine ⟨[h], ?_, ?_, fun α view hq => ⟨hgiven α view hq, ?_⟩⟩
      · simp [inOrder, Runner.traced, given, hx, h]
      · simpa [inOrder, given, hx] using hstop
      · simp [inOrder, given, hx, Handover.Unbroken, h]
    | ok n =>
      by_cases hn : n = 0
      · subst hn
        obtain ⟨seen, hrun, hseq, hu⟩ := ih left.1 (before ++ [h]) (left.2.printLine (timing s d))
        have hcons : InSequence ex (s :: rest) (state, m) (h :: seen) _ := .cons h hx rfl rfl hseq
        refine ⟨h :: seen, ?_, ?_, fun α view hq => ⟨hgiven α view hq, ?_⟩⟩
        · simpa [inOrder, Runner.traced, given, hx, h] using hrun
        · simpa [inOrder, given, hx] using hcons
        · simpa [inOrder, given, hx, hq.printLine] using hu α view hq
      · have hstop : InSequence ex (s :: rest) (state, m) [h] (.error (.stepFailed s.name s.shown n)) :=
          .stop h hx rfl (.inr ⟨n, rfl, hn, rfl⟩)
        refine ⟨[h], ?_, ?_, fun α view hq => ⟨hgiven α view hq, ?_⟩⟩
        · simp [inOrder, Runner.traced, given, hx, h, hn]
        · simpa [inOrder, given, hx, hn] using hstop
        · simp [inOrder, given, hx, hn, Handover.Unbroken, h, hq.emit]

theorem InSequence.single {ex : Runner σ} {a : Step} {here : σ × Machine} {seen : List (Handover σ)}
    {result : Except Failure Unit} (hseq : InSequence ex [a] here seen result) :
    ∃ h, seen = [h] ∧ h.step = a ∧ h.given.2 = here.2.printLine (echo a) ∧ (result = .ok () ↔ h.Succeeded) := by
  cases seen with
  | nil =>
    have hnone := hseq.to_the_end (by simp)
    cases hnone
  | cons h rest =>
    obtain ⟨hstep, hrest⟩ := List.cons_prefix_cons.1 hseq.first_steps
    obtain rfl : rest = [] := by simpa using hrest
    refine ⟨h, rfl, hstep, ?_, by simpa using hseq.ok_iff⟩
    rw [hseq.linked.1, hstep]

end Run

variable {σ : Type}

theorem perform_traced (ex : Runner σ) (dir : Bytes) (steps : List Step) (state : σ) (before : List (Handover σ))
    (m : Machine) :
    ∃ seen, perform ex.traced dir steps (state, before) m =
        ((perform ex dir steps state m).1, ((perform ex dir steps state m).2.1, before ++ seen),
          (perform ex dir steps state m).2.2) ∧
      Handover.Unbroken Machine.tree m.tree seen (perform ex dir steps state m).2.2.tree ∧
      match Run.enter m dir with
      | .error f => seen = [] ∧ perform ex dir steps state m = (.error f, state, m)
      | .ok (_, inside) =>
        Run.InSequence ex steps (state, inside) seen (perform ex dir steps state m).1 ∧
          ∃ last, Handover.Unbroken Machine.place inside.place seen last := by
  cases he : Run.enter m dir with
  | error f => exact ⟨[], by simp [perform, he], by simp [perform, he, Handover.Unbroken], by simp [perform, he]⟩
  | ok r =>
    obtain ⟨w, inside⟩ := r
    obtain ⟨seen, hrun, hseq, hu⟩ := Run.inOrder_traced ex steps state before inside
    obtain ⟨p, e, -, -, hinside⟩ := Run.of_enter_eq_ok he
    have htree : inside.tree = m.tree := by rw [hinside, Machine.tree_emit]
    refine ⟨seen, ?_, ?_, ?_, ?_⟩
    · simp [perform, he, hrun]
    · simpa [perform, he, htree] using hu _ _ Machine.quiet_tree
    · simpa [perform, he] using hseq
    · exact ⟨_, hu _ _ Machine.quiet_place⟩

end Slipway
