import Slipway.Run.Runner
set_option autoImplicit false

/-!
Running steps in a directory.  The way back is kept as a path, recorded when the directory is entered and
followed when it is left, whatever has happened in between.
-/

namespace Slipway

structure WayBack where
  path : Bytes
deriving DecidableEq

namespace Run

def logTarget : Text := "fofimon_tools::process".toList

/-- Changes into a directory.  There must be a current directory to come back to. -/
def enter (m : Machine) (dir : Bytes) : Except Failure (WayBack × Machine) :=
  match m.currentDir? with
  | none => .error (.atPath Path.dot (.os .noEntry))
  | some here =>
    match m.changeDir dir with
    | .error c => .error (.atPath dir c)
    | .ok m' =>
      .ok (⟨here⟩, m'.emit ⟨.debug, logTarget, "pushd".toList,
        [("from".toList, lossy here), ("to".toList, lossy dir)]⟩)

/-- Goes back.  When the way back is gone the directory stays as it is, and only the log tells. -/
def leave (m : Machine) (w : WayBack) : Machine :=
  match m.changeDir w.path with
  | .ok m' => m'.emit ⟨.debug, logTarget, "popd".toList, [("to".toList, lossy w.path)]⟩
  | .error c =>
    m.emit ⟨.warn, logTarget,
      "could not restore working directory ".toList ++ lossy w.path ++ ": ".toList ++ c.message, []⟩

def echo (s : Step) : Text := "$ ".toList ++ s.shown

def timing (s : Step) (d : Duration) : Text := "  [".toList ++ d.text ++ "] ".toList ++ s.name

def inOrder {σ : Type} (ex : Runner σ) : List Step → σ → Machine → Except Failure Unit × σ × Machine
  | [], state, m => (.ok (), state, m)
  | s :: rest, state, m =>
    match ex s state (m.printLine (echo s)) with
    | (⟨.error f, _⟩, state, m) => (.error f, state, m)
    | (⟨.ok n, d⟩, state, m) =>
      if n = 0 then inOrder ex rest state (m.printLine (timing s d))
      else
        (.error (.stepFailed s.name s.shown n), state,
          m.emit ⟨.debug, logTarget, "step failed".toList,
            [("step".toList, quoted s.name), ("code".toList, intText n)]⟩)

end Run

def perform {σ : Type} (ex : Runner σ) (dir : Bytes) (steps : List Step) (state : σ) (m : Machine) :
    Except Failure Unit × σ × Machine :=
  match Run.enter m dir with
  | .error f => (.error f, state, m)
  | .ok (w, m) =>
    let (result, state, m) := Run.inOrder ex steps state m
    (result, state, Run.leave m w)

end Slipway
