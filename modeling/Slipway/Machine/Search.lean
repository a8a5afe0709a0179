import Slipway.Machine.Basic
set_option autoImplicit false

/-!
Two ways to find a program by its name.  `findProgram?` is the check made beforehand: it answers with a path.
`startPaths` are the paths that starting a program goes through, in the directory it is started in, until one of them
can be executed (`Slipway.Machine.Start`).
-/

namespace Slipway.Machine

def pathVar : Bytes := utf8 "PATH".toList
def homeVar : Bytes := utf8 "HOME".toList
def tilde : Bytes := utf8 "~".toList

def searchDirs (value : Bytes) : List Bytes := splitWhere (· == 0x3A) value

def extend (base : Bytes) (cs : List Component) : Bytes := cs.foldl (fun p c => Path.join p c.bytes) base

/-- A directory whose first component is a tilde lies in the home directory, if there is one. -/
def expandHome (m : Machine) (dir : Bytes) : Bytes :=
  match Path.components dir, m.env.get? homeVar with
  | .name n :: rest, some home => if n == tilde && home != [] then extend home rest else dir
  | _, _ => dir

/-- The paths at which the check looks for a program.  A name of more than one component is not searched for; it
counts from the current directory, as long as there is one. -/
def candidates (m : Machine) (program : Bytes) : List Bytes :=
  match m.currentDir?, Path.components program with
  | some here, first :: second :: rest =>
    if Path.isAbsolute program then [program]
    else [extend here ((first :: second :: rest).dropWhile (· == .here))]
  | _, _ =>
    match m.env.get? pathVar with
    | some dirs => (searchDirs dirs).map fun d => Path.join (m.expandHome d) program
    | none => []

def findProgram? (m : Machine) (program : Bytes) : Option Bytes := (m.candidates program).find? m.isProgram

def standardPath : Bytes := utf8 "/bin:/usr/bin".toList

def inDir (dir program : Bytes) : Bytes := if dir = [] then program else dir ++ Path.slash :: program

/-- The directories in which a program to be started is looked for.  An entry that is longer than a path may be counts
as empty, and at the end of the list not at all. -/
def startDirs (value : Bytes) : List Bytes :=
  let fits (d : Bytes) : Bool := d.length ≤ Tree.pathLimit
  let dirs := searchDirs value
  dirs.dropLast.map (fun d => if fits d then d else []) ++ dirs.getLast?.toList.filter fits

def searchPaths (m : Machine) (program : Bytes) : List Bytes :=
  (startDirs ((m.env.get? pathVar).getD standardPath)).map fun d => inDir d program

def startPaths (m : Machine) (program : Bytes) : List Bytes :=
  if program = [] then []
  else if program.elem Path.slash then [program]
  else m.searchPaths program

end Slipway.Machine
