import Slipway.Failure
import Slipway.Machine.Search
import Slipway.Plan.Step
import Slipway.Settings
set_option autoImplicit false

namespace Slipway.Tools

structure Check where
  tool : Text
  path : Option Bytes
deriving DecidableEq

def programs (steps : List Step) : List Bytes :=
  firstOccurrences ((steps.map Step.program).filter (· != []))

def providers : List (Text × Text) :=
  [("cmake".toList, "cmake".toList), ("make".toList, "make".toList), ("sudo".toList, "sudo".toList),
    ("tar".toList, "tar".toList)]

def providerOf (tool : Text) : Text := (providers.lookup tool).getD tool

def Check.details (c : Check) : Text :=
  match c.path with
  | some p => lossy p
  | none => "Not found. Install '".toList ++ providerOf c.tool ++ "' package.".toList

def check (m : Machine) (program : Bytes) : Check := ⟨lossy program, m.findProgram? program⟩

def checks (m : Machine) (steps : List Step) : List Check := (programs steps).map (check m)

def event (c : Check) : Log.Event where
  level := .debug
  target := "fofimon_tools::preflight".toList
  message := "preflight".toList
  fields :=
    [("tool".toList, c.tool), ("status".toList, (if c.path.isSome then "Pass" else "Fail").toList),
      ("details".toList, c.details)]

def requireAll : List Check → Machine → Except Failure Unit × Machine
  | [], m => (.ok (), m)
  | c :: rest, m =>
    match c.path with
    | some _ => requireAll rest (m.emit (event c))
    | none => (.error (.toolMissing c.tool (providerOf c.tool)), m.emit (event c))

def require (m : Machine) (steps : List Step) : Except Failure Unit × Machine := requireAll (checks m steps) m

/-- The check, unless the settings leave it out. -/
def requireFor (s : Settings) (steps : List Step) (m : Machine) : Except Failure Unit × Machine :=
  if s.skipToolCheck then (.ok (), m) else require m steps

end Slipway.Tools
