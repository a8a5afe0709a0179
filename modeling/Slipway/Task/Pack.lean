import Slipway.Machine.Files
import Slipway.Plan.Pack
import Slipway.Tools
import Slipway.Run.Perform
import Slipway.Settings
import Slipway.CommandLine.Request
set_option autoImplicit false

namespace Slipway

namespace Pack

def temporaryStem : Text := ".fofimon-write-check".toList

def temporaryEnding : Nat → Text
  | 0 => "XXXXXX".toList
  | k + 1 => paddedNat 6 k

def temporaryName (k : Nat) : Bytes := utf8 (temporaryStem ++ temporaryEnding k)

def isTaken (path : Bytes) (m : Machine) : Bool :=
  match m.tree.locate false m.place path with
  | .ok (.free _) | .error _ => false
  | .ok _ => true

/-- The number of the first temporary name that is not taken in the directory.  No more names are taken than there are
objects, so it is found among the numbers up to theirs. -/
def firstFree (dir : Bytes) (m : Machine) : Nat :=
  ((List.range (m.tree.entries.length + 1)).find? fun k => !isTaken (Path.join dir (temporaryName k)) m).getD 0

/-- A path in the directory at which nothing is.  It is absolute, for the file to be found again. -/
def temporaryPath (dir : Bytes) (m : Machine) : Except Cause Bytes :=
  let absolute : Except Cause Bytes :=
    if Path.isAbsolute dir then .ok dir
    else match m.currentDir? with
      | some here => .ok (Path.join here dir)
      | none => .error (.os .noEntry)
  absolute.map fun base => Path.join base (temporaryName (firstFree base m))

def createNew (p : Bytes) (m : Machine) : Except Cause Machine :=
  match m.tree.locate false m.place p with
  | .ok (.free l) => .ok { m with tree := m.tree.insert l (.file false []) }
  | .ok _ => .error (.os .alreadyExists)
  | .error c => .error c

def probe (dir : Bytes) (m : Machine) : Except Failure Machine :=
  match temporaryPath dir m with
  | .error c => .error (.atPath dir c)
  | .ok p =>
    match createNew p m with
    | .error c => .error (.atPath dir (.metAt c p))
    | .ok m' =>
      match m'.removeAll p with
      | .ok m'' => .ok m''
      | .error _ => .ok m'

def farewell (p : PackPlan) : Text := "\nCreated ".toList ++ lossy p.outputPath

end Pack

def pack {σ : Type} (s : Settings) (r : PackRequest) (today : Date) (ex : Runner σ) (state : σ) (m : Machine) :
    Except Failure PackPlan × σ × Machine :=
  match m.canonical s.projectRoot with
  | .error c => (.error (.atPath s.projectRoot c), state, m)
  | .ok root =>
    match PackPlan.ofRoot r.onlyCli root PackPlan.projectName today with
    | .error f => (.error f, state, m)
    | .ok plan =>
      match Tools.requireFor s [plan.step] m with
      | (.error f, m) => (.error f, state, m)
      | (.ok (), m) =>
        match Pack.probe plan.directory m with
        | .error f => (.error f, state, m)
        | .ok m =>
          match perform ex plan.directory [plan.step] state m with
          | (.error f, state, m) => (.error f, state, m)
          | (.ok (), state, m) => (.ok plan, state, m.printLine (Pack.farewell plan))

end Slipway
