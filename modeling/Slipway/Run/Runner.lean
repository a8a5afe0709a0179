import Slipway.Duration
import Slipway.Failure
import Slipway.Machine.Start
import Slipway.Plan.Step
set_option autoImplicit false

/-!
Whoever carries out steps.  A runner answers each step with an exit code or a failure and tells how long it
took; it may have a state of its own and may change the machine in any way.
-/

namespace Slipway

structure Reply where
  result : Except Failure Int
  elapsed : Duration

abbrev Runner (σ : Type) := Step → σ → Machine → Reply × σ × Machine

namespace Runner

/-- Starts the step's program; death by a signal counts as code -1. -/
def starting : Runner Unit := fun s _ m =>
  match m.start (s.program :: s.args) with
  | .ok (.exited n, m) => (⟨.ok n, .zero⟩, (), m)
  | .ok (.killed _, m) => (⟨.ok (-1), .zero⟩, (), m)
  | .error c => (⟨.error (.notStarted (lossy s.program) c), .zero⟩, (), m)

inductive Cue
  | code (n : Int)
  | startFailure (text : Text)
  /-- Tries to change into a directory first, whether or not that works. -/
  | changeDir (path : Bytes) (n : Int)

def rehearsed : Runner (List Cue) := fun s cues m =>
  match cues with
  | [] => (⟨.ok 0, .zero⟩, [], m)
  | .code n :: rest => (⟨.ok n, .zero⟩, rest, m)
  | .startFailure t :: rest => (⟨.error (.notStarted (lossy s.program) (.reported t)), .zero⟩, rest, m)
  | .changeDir path n :: rest =>
    (⟨.ok n, .zero⟩, rest, match m.changeDir path with
      | .ok m' => m'
      | .error _ => m)

structure Call where
  step : Step
  place : Option Bytes

def recorded {σ : Type} (ex : Runner σ) : Runner (σ × List Call) := fun s (state, calls) m =>
  let (reply, state, m') := ex s state m
  (reply, (state, calls ++ [⟨s, m.currentDir?⟩]), m')

end Runner

end Slipway
