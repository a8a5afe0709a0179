import Slipway.Task.Install
import Slipway.Task.Pack
import Slipway.Settings.Read
set_option autoImplicit false

namespace Slipway.Program

/-- The variable that sets the log's filter.  It is read when a run starts, before any file is. -/
def logVar : Text := "FOFIMON_LOG".toList

inductive Stop
  | failure (f : Failure)
  | noCurrentDir
  | crash (c : DotEnv.Crash)

namespace Stop

def crashText : DotEnv.Crash → Text
  | .nulInValue n v =>
    "failed to set environment variable ".toList ++ quoted n ++ " to ".toList ++ quoted v
  | .notText b => "environment is not text: ".toList ++ quotedPath b

def line : Stop → Text
  | .failure f => "error: ".toList ++ f.message ++ ['\n']
  | .noCurrentDir => "error: cannot determine current directory\n".toList
  | .crash c => "fatal: ".toList ++ crashText c ++ ['\n']

def status : Stop → Nat
  | .failure f => if 0 ≤ f.exitStatus ∧ f.exitStatus ≤ 255 then f.exitStatus.toNat else 1
  | .noCurrentDir => 1
  | .crash _ => 101

end Stop

def finish : Except Stop Unit × Machine → Nat × Machine
  | (.ok (), m) => (0, m)
  | (.error s, m) => (s.status, m.printError s.line)

def withLog (m : Machine) : Machine := { m with log := .ofVariable (m.env.text? logVar) }

def requestTarget : Text := "fofimon_tools::options".toList

def requestShown (r : InstallRequest) : Text :=
  let typeName : Text := r.variant.name
  let testsName : Text := r.tests.name
  "BuildConfiguration \x7b build_type: ".toList ++ typeName ++ ", test_policy: ".toList ++ testsName ++
    ", install_prefix: ".toList ++ quotedPath r.installRoot ++ ", use_sudo: ".toList ++
    Settings.boolText r.withSudo ++ " \x7d".toList

def runInstall {σ : Type} (argv : List Bytes) (ex : Runner σ) (state : σ) (m : Machine) :
    Except Stop Unit × σ × Machine :=
  match m.currentDir? with
  | none => (.error .noCurrentDir, state, m)
  | some here =>
    match InstallRequest.parse here argv with
    | .error f => (.error (.failure f), state, m)
    | .ok (.info t) => (.ok (), state, m.print t)
    | .ok (.run r) =>
      let m := m.emit ⟨.debug, requestTarget, "build options resolved".toList, [("config".toList, requestShown r)]⟩
      match Settings.read here m with
      | .error c => (.error (.crash c), state, m)
      | .ok (s, m) =>
        let (result, state, m) := install s r ex state m
        (result.mapError .failure, state, m)

def runPack {σ : Type} (argv : List Bytes) (today : Date) (ex : Runner σ) (state : σ) (m : Machine) :
    Except Stop Unit × σ × Machine :=
  match PackRequest.parse argv with
  | .error f => (.error (.failure f), state, m)
  | .ok (.info t) => (.ok (), state, m.print t)
  | .ok (.run r) =>
    match m.currentDir? with
    | none => (.error .noCurrentDir, state, m)
    | some here =>
      match Settings.read here m with
      | .error c => (.error (.crash c), state, m)
      | .ok (s, m) =>
        let (result, state, m) := pack s r today ex state m
        ((result.map fun _ => ()).mapError .failure, state, m)

def mainInstall (argv : List Bytes) (m : Machine) : Nat × Machine :=
  let (result, _, m) := runInstall argv Runner.starting () (withLog m)
  finish (result, m)

def mainPack (argv : List Bytes) (today : Date) (m : Machine) : Nat × Machine :=
  let (result, _, m) := runPack argv today Runner.starting () (withLog m)
  finish (result, m)

end Slipway.Program
