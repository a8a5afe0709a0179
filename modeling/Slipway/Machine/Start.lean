import Slipway.Machine.Interpreter
import Slipway.Shell.Run
set_option autoImplicit false

namespace Slipway.Machine

/-- Tries the paths in order and gives the words that come before the program's arguments.  A file that is missing is
passed over, and so is one that may not be executed, except that the refusal is what a search reports that finds
nothing; otherwise it reports the last error. -/
def firstWords (m : Machine) (isRefused : Bool) : OsError → List Bytes → Except OsError (List Bytes)
  | last, [] => .error (if isRefused then .accessDenied else last)
  | _, path :: paths =>
    match m.shellWords path with
    | .ok ws => .ok ws
    | .error e =>
      if e = .accessDenied then firstWords m true e paths
      else if e.isAbsence then firstWords m isRefused e paths
      else .error e

/-- The paths from the first one on at which there is a program, for a script that looks before it starts one. -/
def fromProgram (m : Machine) : OsError → List Bytes → Except OsError (List Bytes)
  | e, [] => .error e
  | e, path :: paths =>
    match m.locate path with
    | .ok (.file _ true _) => .ok (path :: paths)
    | .ok (.free _) => fromProgram m e paths
    | .ok _ => fromProgram m .accessDenied paths
    | .error (.os e') => fromProgram m (if e'.isAbsence then e else e') paths
    | .error _ => fromProgram m e paths

/-- As `firstWords`, for a script: no error ends the search, and a file of no known format is one for the shell. -/
def scriptWords (m : Machine) : OsError → List Bytes → Except OsError (List Bytes)
  | e, [] => .error e
  | e, path :: paths =>
    match m.shellWords path with
    | .ok ws => .ok ws
    | .error e' =>
      if e' = .badFormat then .ok [path]
      else scriptWords m (if e'.isAbsence then e else e') paths

def shellOptions : List Bytes → Bytes × List Bytes
  | (0x2D :: letters) :: rest =>
    if letters = [] || letters = [0x2D] then ([], rest)
    else
      let (more, operands) := shellOptions rest
      (letters ++ more, operands)
  | operands => ([], operands)

def runShell (start : Machine → List Bytes → Shell.Started) (m : Machine) (name : Bytes) (args : List Bytes) :
    Ending × Machine :=
  let (letters, operands) := shellOptions args
  let has (c : Char) : Bool := (utf8 [c]).all letters.elem
  match operands with
  | [] =>
    if has 'c' then (.exited 2, m.printError (lossy name ++ ": 0: -c requires an argument\n".toList)) else (.exited 0, m)
  | a :: rest =>
    if has 'c' then Shell.runText start m (has 'e') (rest.headD name) rest.tail a
    else match m.contentOf a with
      | .ok content => Shell.runText start m (has 'e') a rest content
      | .error _ =>
        (.exited 2, m.printError (lossy name ++ ": 0: cannot open ".toList ++ lossy a ++ ": No such file\n".toList))

def afterChild (m child : Machine) : Machine := { m with tree := child.tree, out := child.out, err := child.err }

def startLimit : Nat := 16

def failureStatus (e : OsError) : Nat := if e.isAbsence || e = .tooManyLinks || e = .nameTooLong then 127 else 126

def startForScript : Nat → Machine → List Bytes → Shell.Started
  | 0, _, _ => .failed .accessDenied 126
  | _ + 1, _, [] => .failed .noEntry 127
  | depth + 1, m, name :: args =>
    let paths := if name.elem Path.slash then .ok [name] else m.fromProgram .noEntry (m.searchPaths name)
    match paths with
    | .error e => .failed e 127
    | .ok paths =>
      match m.scriptWords .noEntry paths with
      | .error e => .failed e (failureStatus e)
      | .ok ws =>
        let (e, child) := runShell (startForScript depth) m name (ws ++ args)
        .ended e (afterChild m child)

def start (m : Machine) (argv : List Bytes) : Except Cause (Ending × Machine) :=
  if argv.any fun a => a.elem 0 then .error .nulInArgument
  else match m.firstWords false .noEntry (m.startPaths (argv.headD [])) with
    | .error e => .error (.os e)
    | .ok ws =>
      let (e, child) := runShell (startForScript startLimit) m (argv.headD []) (ws ++ argv.tail)
      .ok (e, afterChild m child)

end Slipway.Machine
