import Slipway.Plan.Install
import Slipway.Tools
import Slipway.Run.Perform
import Slipway.Settings
set_option autoImplicit false

namespace Slipway

namespace Install

def projectFile : Bytes := utf8 "CMakeLists.txt".toList

def checkRoot (s : Settings) (m : Machine) : Except Failure Unit :=
  if !m.isDir s.projectRoot then .error (.atPath s.projectRoot .noProjectRoot)
  else if !m.isFile (Path.join s.projectRoot projectFile) then
    .error (.atPath (Path.join s.projectRoot projectFile) .notAProjectRoot)
  else .ok ()

/-- Makes the build directory unless it is there.  Its parent is: the project file has been found in it. -/
def prepareDir (dir : Bytes) (m : Machine) : Except Failure Machine :=
  if m.isDir dir then .ok m
  else match m.makeDir dir with
    | .error c => .error (.atPath dir c)
    | .ok m => .ok (m.printLine ("Created ".toList ++ lossy dir))

def farewell (r : InstallRequest) : Text :=
  "\nfofimon (".toList ++ r.variant.name ++ ") installed to ".toList ++ lossy r.installRoot

end Install

def install {σ : Type} (s : Settings) (r : InstallRequest) (ex : Runner σ) (state : σ) (m : Machine) :
    Except Failure Unit × σ × Machine :=
  match Install.checkRoot s m with
  | .error f => (.error f, state, m)
  | .ok () =>
    let plan := InstallPlan.ofRequest r s.projectRoot s.compileArgs
    match Tools.requireFor s plan.steps m with
    | (.error f, m) => (.error f, state, m)
    | (.ok (), m) =>
      match Install.prepareDir plan.directory m with
      | .error f => (.error f, state, m)
      | .ok m =>
        match perform ex plan.directory plan.steps state m with
        | (.error f, state, m) => (.error f, state, m)
        | (.ok (), state, m) => (.ok (), state, m.printLine (Install.farewell r))

end Slipway
