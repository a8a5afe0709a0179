import Slipway.Program
set_option autoImplicit false

/-!
The command line.  The first argument says which command is meant and the rest are its arguments.  Help, version and
diagnostics come out as they are; a request that stands is answered with its plan, one command a line, for this
layer starts no programs.  The day of an archive is taken from the variable `SLIPWAY_TODAY`, written `2024-03-05`.
-/

namespace Slipway.Main

def bindings (names : List Text) : IO (List (Text × Text)) := do
  let found ← names.mapM fun n => do return (← IO.getEnv (String.ofList n)).map fun v => (n, v.toList)
  return found.filterMap id

def here : IO Bytes := do return utf8 (toString (← IO.currentDir)).toList

def stopWith (s : Program.Stop) : IO UInt32 := do
  IO.eprint (String.ofList s.line)
  return UInt32.ofNat s.status

def showSteps (dir : Bytes) (steps : List Step) : IO UInt32 := do
  IO.println (String.ofList ("cd ".toList ++ lossy dir))
  steps.forM fun s => IO.println (String.ofList (Run.echo s))
  return 0

def settings (base : Bytes) : IO Settings := do
  let vars ← bindings [Settings.projectRootVar, Settings.compileOptionsVar, Settings.skipToolCheckVar]
  return Settings.ofBindings vars base

def today? : IO (Option Date) := do
  return (← IO.getEnv "SLIPWAY_TODAY").bind fun v => Date.ofText? v.toList

def planInstall (argv : List Bytes) : IO UInt32 := do
  let base ← here
  match InstallRequest.parse base argv with
  | .error f => stopWith (.failure f)
  | .ok (.info t) => IO.print (String.ofList t); return 0
  | .ok (.run r) =>
    let s ← settings base
    let plan := InstallPlan.ofRequest r s.projectRoot s.compileArgs
    showSteps plan.directory plan.steps

def planPack (argv : List Bytes) : IO UInt32 := do
  match PackRequest.parse argv with
  | .error f => stopWith (.failure f)
  | .ok (.info t) => IO.print (String.ofList t); return 0
  | .ok (.run r) =>
    let s ← settings (← here)
    match ← today? with
    | none => IO.eprintln "error: SLIPWAY_TODAY does not hold a date"; return 1
    | some d =>
      match PackPlan.ofRoot r.onlyCli s.projectRoot PackPlan.projectName d with
      | .error f => stopWith (.failure f)
      | .ok plan => showSteps plan.directory [plan.step]

end Slipway.Main

def main (args : List String) : IO UInt32 := do
  let argv := args.map fun a => Slipway.utf8 a.toList
  if args.head? == some "fofimon-sourcepackage" then Slipway.Main.planPack argv
  else Slipway.Main.planInstall argv
