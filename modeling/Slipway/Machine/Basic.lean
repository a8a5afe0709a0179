import Slipway.Log.Event
import Slipway.Machine.Env
import Slipway.Machine.Tree
set_option autoImplicit false

/-!
What a program runs on: a file system, the directory it is in, its environment, what it has printed so far, and
what its log lets through.  Nothing is hidden behind this value, so a run is a function from machines to machines.
-/

namespace Slipway

structure Machine where
  tree : Tree
  place : Place
  env : Env
  out : Bytes
  err : Bytes
  log : Log.Filter
deriving DecidableEq

namespace Machine

def ofFiles (files : List (List String × Node)) : Machine where
  tree := ⟨files.map fun f => (f.1.map fun n => utf8 n.toList, f.2)⟩
  place := .root
  env := []
  out := []
  err := []
  log := .silent

def currentDir? (m : Machine) : Option Bytes := if m.place.lost = 0 then some (Location.path m.place.location) else none

def locate (m : Machine) (path : Bytes) : Except Cause Spot := m.tree.locate true m.place path

def isDir (m : Machine) (path : Bytes) : Bool :=
  match m.locate path with
  | .ok (.dir _) => true
  | _ => false

def isFile (m : Machine) (path : Bytes) : Bool :=
  match m.locate path with
  | .ok (.file ..) => true
  | _ => false

def isProgram (m : Machine) (path : Bytes) : Bool :=
  match m.locate path with
  | .ok (.file _ executable _) => executable
  | _ => false

def isThere (m : Machine) (path : Bytes) : Bool :=
  match m.locate path with
  | .ok (.free _) | .error _ => false
  | .ok _ => true

def changeDir (m : Machine) (path : Bytes) : Except Cause Machine :=
  match m.locate path with
  | .ok (.dir p) => .ok { m with place := p }
  | .ok (.free _) => .error (.os .noEntry)
  | .ok _ => .error (.os .notADirectory)
  | .error c => .error c

/-- Whether a relative path would have to count from a directory that is gone. -/
def isAdrift (m : Machine) (path : Bytes) : Bool := 0 < m.place.lost && !Path.isAbsolute path

/-- The one path of an object that has neither links nor dots in it.  A relative path counts from the path of the
current directory, so there must be one. -/
def canonical (m : Machine) (path : Bytes) : Except Cause Bytes :=
  if m.isAdrift path && !path.elem 0 then .error (.os .noEntry)
  else match m.tree.resolve m.place path with
    | .error c => .error c
    | .ok (.dir p) => .ok (Location.path p.location)
    | .ok (.file l _ _) => .ok (Location.path l)
    | .ok (.link l _) => .ok (Location.path l)
    | .ok (.device l) => .ok (Location.path l)
    | .ok (.free _) => .error (.os .noEntry)

def print (m : Machine) (t : Text) : Machine := { m with out := m.out ++ utf8 t }

def printLine (m : Machine) (t : Text) : Machine := m.print (t ++ ['\n'])

def printError (m : Machine) (t : Text) : Machine := { m with err := m.err ++ utf8 t }

def emit (m : Machine) (e : Log.Event) : Machine := if e.passes m.log then m.printError e.line else m

@[simp] theorem tree_printLine (m : Machine) (t : Text) : (m.printLine t).tree = m.tree := rfl

@[simp] theorem place_printLine (m : Machine) (t : Text) : (m.printLine t).place = m.place := rfl

@[simp] theorem env_printLine (m : Machine) (t : Text) : (m.printLine t).env = m.env := rfl

@[simp] theorem tree_emit (m : Machine) (e : Log.Event) : (m.emit e).tree = m.tree := by
  unfold emit
  split <;> rfl

@[simp] theorem place_emit (m : Machine) (e : Log.Event) : (m.emit e).place = m.place := by
  unfold emit
  split <;> rfl

@[simp] theorem env_emit (m : Machine) (e : Log.Event) : (m.emit e).env = m.env := by
  unfold emit
  split <;> rfl

@[simp] theorem out_emit (m : Machine) (e : Log.Event) : (m.emit e).out = m.out := by
  unfold emit
  split <;> rfl

end Machine

end Slipway
