import Slipway.Machine.Basic
set_option autoImplicit false

namespace Slipway.Machine

def withoutTrailingSlashes (path : Bytes) : Bytes :=
  let cut := (path.reverse.dropWhile (· == Path.slash)).reverse
  if cut = [] && path != [] then [Path.slash] else cut

def makeDir (m : Machine) (path : Bytes) : Except Cause Machine :=
  match m.tree.locate false m.place (withoutTrailingSlashes path) with
  | .ok (.free l) => .ok { m with tree := m.tree.insert l .dir }
  | .ok _ => .error (.os .alreadyExists)
  | .error c => .error c

/-- The path and what is before its last component, before that one's, and so on, the shortest first; without the
root and the empty path. -/
def ancestors : Nat → Bytes → List Bytes
  | 0, _ => []
  | depth + 1, path =>
    match Path.parent? path with
    | some p => ancestors depth p ++ [path]
    | none => []

/-- Makes a directory with all that lead to it, as far as they can be made. -/
def makeDirs (m : Machine) (path : Bytes) : Machine :=
  (ancestors path.length path).foldl (fun m p =>
    match m.makeDir p with
    | .ok m' => m'
    | .error _ => m) m

def writeFile (m : Machine) (path : Bytes) (executable : Bool) (data : Bytes) : Except Cause Machine :=
  match m.locate path with
  | .ok (.free l) => .ok { m with tree := m.tree.insert l (.file executable data) }
  | .ok (.file l _ _) => .ok { m with tree := m.tree.replace l (.file executable data) }
  | .ok (.device _) => .ok m
  | .ok _ => .error (.os .isADirectory)
  | .error c => .error c

def appendFile (m : Machine) (path : Bytes) (data : Bytes) : Except Cause Machine :=
  match m.locate path with
  | .ok (.free l) => .ok { m with tree := m.tree.insert l (.file false data) }
  | .ok (.file l executable old) => .ok { m with tree := m.tree.replace l (.file executable (old ++ data)) }
  | .ok (.device _) => .ok m
  | .ok _ => .error (.os .isADirectory)
  | .error c => .error c

def contentOf (m : Machine) (path : Bytes) : Except Cause Bytes :=
  match m.locate path with
  | .ok (.file _ _ data) => .ok data
  | .ok (.device _) => .ok []
  | .ok (.free _) => .error (.os .noEntry)
  | .ok _ => .error (.os .isADirectory)
  | .error c => .error c

def makeLink (m : Machine) (path target : Bytes) : Except Cause Machine :=
  if target = [] then .error (.os .noEntry)
  else match m.tree.locate false m.place path with
    | .ok (.free l) => .ok { m with tree := m.tree.insert l (.link target) }
    | .ok _ => .error (.os .alreadyExists)
    | .error c => .error c

/-- Where a place is after the object at `l` has gone with all that is below it. -/
def placeAfter (p : Place) (l : Location) : Place :=
  if l.isPrefixOf p.location then ⟨l.dropLast, p.lost + (p.location.length - l.length) + 1⟩ else p

/-- Removes a file, a link or a directory with all that is below it.  Only of a directory can one be inside. -/
def removeAll (m : Machine) (path : Bytes) : Except Cause Machine :=
  match m.tree.locate false m.place path with
  | .ok (.dir p) =>
    if p.location = [] || 0 < p.lost then .error (.os .accessDenied)
    else .ok { m with tree := m.tree.remove p.location, place := placeAfter m.place p.location }
  | .ok (.file l _ _) => .ok { m with tree := m.tree.remove l }
  | .ok (.link l _) => .ok { m with tree := m.tree.remove l }
  | .ok (.device l) => .ok { m with tree := m.tree.remove l }
  | .ok (.free _) => .error (.os .noEntry)
  | .error c => .error c

end Slipway.Machine
