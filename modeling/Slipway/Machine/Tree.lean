import Slipway.Cause
import Slipway.Path
set_option autoImplicit false

/-!
A file system as a table from locations to nodes.  A location is the list of names from the root, so every object
has one location and an object is where it is: there are no hard links.  `Tree.walk` follows a path the way a
kernel does, one component at a time, through symbolic links and within the usual limits.
-/

namespace Slipway

inductive Node
  | dir
  | file (executable : Bool) (data : Bytes)
  | link (target : Bytes)
  /-- Nothing can be read from it, and what is written to it is lost. -/
  | device
deriving DecidableEq

abbrev Location := List Bytes

def Location.path (l : Location) : Bytes := Path.slash :: joinWith [Path.slash] l

structure Tree where
  entries : List (Location × Node)
deriving DecidableEq

/-- A directory, by its location.  One that has been removed while it was in use has lost that many of its
innermost levels: `location` is then the innermost directory on its way that is still there. -/
structure Place where
  location : Location
  lost : Nat
deriving DecidableEq

namespace Place

def root : Place := ⟨[], 0⟩

def up (p : Place) : Place := if p.lost = 0 then ⟨p.location.dropLast, 0⟩ else ⟨p.location, p.lost - 1⟩

def down (p : Place) (n : Bytes) : Place := ⟨p.location ++ [n], p.lost⟩

end Place

namespace Tree

def node? (t : Tree) (l : Location) : Option Node :=
  if l = [] then some .dir else t.entries.lookup l

def insert (t : Tree) (l : Location) (n : Node) : Tree := ⟨t.entries ++ [(l, n)]⟩

def replace (t : Tree) (l : Location) (n : Node) : Tree :=
  ⟨t.entries.map fun e => if e.1 = l then (l, n) else e⟩

def remove (t : Tree) (l : Location) : Tree := ⟨t.entries.filter fun e => !l.isPrefixOf e.1⟩

theorem node?_insert_self (t : Tree) (l : Location) (n : Node) (hl : l ≠ []) (h : t.node? l = none) :
    (t.insert l n).node? l = some n := by
  simp only [node?, hl, if_false, insert] at h ⊢
  simp [List.lookup_append, h]

theorem node?_insert_of_ne (t : Tree) (l k : Location) (n : Node) (h : k ≠ l) :
    (t.insert l n).node? k = t.node? k := by
  simp only [node?, insert]
  split
  · rfl
  · have hb : (k == l) = false := beq_false_of_ne h
    simp [List.lookup_append, List.lookup_cons, hb]

theorem node?_remove (t : Tree) (l k : Location) (hk : k ≠ []) :
    (t.remove l).node? k = if l.isPrefixOf k then none else t.node? k := by
  simp only [node?, hk, if_false, remove]
  induction t.entries with
  | nil => cases l.isPrefixOf k <;> rfl
  | cons e es ih =>
    obtain ⟨m, n⟩ := e
    by_cases hm : k = m
    · subst hm
      cases hp : l.isPrefixOf k with
      | true => simpa only [List.filter_cons, hp, Bool.not_true, Bool.false_eq_true, if_false, if_true] using ih
      | false => simp only [List.filter_cons, hp, Bool.not_false, if_true, List.lookup_cons, beq_self_eq_true,
          Bool.false_eq_true, if_false]
    · have hb : (k == m) = false := beq_false_of_ne hm
      cases hp : l.isPrefixOf m <;>
        simpa only [List.filter_cons, hp, Bool.not_true, Bool.not_false, Bool.false_eq_true, if_false, if_true,
          List.lookup_cons, hb] using ih

end Tree

inductive Move
  | stay
  | up
  | into (name : Bytes)
deriving DecidableEq

namespace Move

def ofSegment (s : Bytes) : Option Move :=
  if s = [] then none
  else if s = Path.dot then some .stay
  else if s = Path.dotDot then some .up
  else some (.into s)

/-- The moves a path asks for.  A slash at the end asks for a directory, as a `.` there would. -/
def ofPath (p : Bytes) : List Move :=
  (Path.segments p).filterMap ofSegment ++ if p.getLast? = some Path.slash then [.stay] else []

end Move

/-- Where a walk ends: at an object, or at a free name in a directory. -/
inductive Spot
  | dir (p : Place)
  | file (l : Location) (executable : Bool) (data : Bytes)
  | link (l : Location) (target : Bytes)
  | device (l : Location)
  | free (l : Location)
deriving DecidableEq

namespace Tree

def nameLimit : Nat := 255
def pathLimit : Nat := 4095
def linkLimit : Nat := 40

/-- How a walk is made: whether it looks through a link at its end, and which locations it can be told to go to. -/
structure Manner where
  follow : Bool
  reaches : Location → Bool

/-- Makes the moves from a directory.  `onLink` goes on at a symbolic link, given its directory, its target and
the moves still to make. -/
def walkWith (t : Tree) (how : Manner) (onLink : Place → Bytes → List Move → Except OsError Spot) :
    Place → List Move → Except OsError Spot
  | p, [] => .ok (.dir p)
  | p, .stay :: rest => walkWith t how onLink p rest
  | p, .up :: rest => walkWith t how onLink p.up rest
  | p, .into n :: rest =>
    if nameLimit < n.length || !how.reaches (p.location ++ [n]) then .error .nameTooLong
    else if 0 < p.lost then .error .noEntry
    else match t.node? (p.location ++ [n]) with
      | none => if rest = [] then .ok (.free (p.location ++ [n])) else .error .noEntry
      | some .dir => walkWith t how onLink (p.down n) rest
      | some (.file executable data) =>
        if rest = [] then .ok (.file (p.location ++ [n]) executable data) else .error .notADirectory
      | some .device => if rest = [] then .ok (.device (p.location ++ [n])) else .error .notADirectory
      | some (.link target) =>
        if rest = [] && !how.follow then .ok (.link (p.location ++ [n]) target) else onLink p target rest

def origin (p : Place) (path : Bytes) : Place := if Path.isAbsolute path then .root else p

def walk (t : Tree) (how : Manner) : Nat → Place → List Move → Except OsError Spot
  | 0 => walkWith t how fun _ _ _ => .error .tooManyLinks
  | links + 1 => walkWith t how fun p target rest =>
    walk t how links (origin p target) (Move.ofPath target ++ rest)

def locate (t : Tree) (follow : Bool) (p : Place) (path : Bytes) : Except Cause Spot :=
  if path.elem 0 then .error .nulInPath
  else if path = [] then .error (.os .noEntry)
  else if pathLimit < path.length then .error (.os .nameTooLong)
  else (t.walk ⟨follow, fun _ => true⟩ linkLimit (origin p path) (Move.ofPath path)).mapError .os

/-- Follows a path one name at a time, each time by the whole path of where that name leads.  So the limit is on each
of these paths and not on the one that is followed. -/
def resolve (t : Tree) (p : Place) (path : Bytes) : Except Cause Spot :=
  if path.elem 0 then .error .nulInPath
  else if path = [] then .error (.os .noEntry)
  else
    (t.walk ⟨true, fun l => (Location.path l).length ≤ pathLimit⟩ linkLimit (origin p path) (Move.ofPath path)).mapError
      .os

end Tree

end Slipway
