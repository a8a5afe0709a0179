import Slipway.Text.Utf8
set_option autoImplicit false

/-!
Paths as byte strings and what can be read off them without a file system: their components, the split into
directory and last component, and joining.  Repeated slashes and inner `.` components are silent; a leading `.`
is a component of its own, and `..` is never folded away here (see `Slipway.Path.Absolute`).
-/

namespace Slipway

inductive Component
  | root
  | here
  | up
  | name (n : Bytes)
deriving DecidableEq, Repr

namespace Path

def slash : UInt8 := 0x2F
def dot : Bytes := [0x2E]
def dotDot : Bytes := [0x2E, 0x2E]

end Path

def Component.bytes : Component → Bytes
  | .root => [Path.slash]
  | .here => Path.dot
  | .up => Path.dotDot
  | .name n => n

namespace Path

def isAbsolute (p : Bytes) : Bool := p.head? == some slash

def segments (p : Bytes) : List Bytes := splitWhere (· == slash) p

/-- A segment that names nothing: one between two slashes, or a `.` past the start. -/
def isSilent (s : Bytes) : Bool := s == [] || s == dot

def ofSegment (s : Bytes) : Option Component :=
  if isSilent s then none else if s == dotDot then some .up else some (.name s)

/-- The component at the very start: the root, a leading `.`, or that of an ordinary segment. -/
def leading (p s : Bytes) : Option Component :=
  if isAbsolute p then some .root else if s == dot then some .here else ofSegment s

def components (p : Bytes) : List Component :=
  match segments p with
  | [] => []
  | s :: rest => (leading p s).toList ++ rest.filterMap ofSegment

def join (base rest : Bytes) : Bytes :=
  if isAbsolute rest || base == [] then rest
  else if base.getLast? == some slash then base ++ rest
  else base ++ slash :: rest

/-- The text of a path with these segments, the first of which is empty exactly when the path is absolute. -/
def ofSegments : List Bytes → Bytes
  | [] => []
  | [[]] => [slash]
  | ss => joinWith [slash] ss

/-- The last component and the path before it, that path less the silent segments at its end.
`none` for the root and for the empty path, which have no last component to take away. -/
def split? (p : Bytes) : Option (Bytes × Component) :=
  match segments p with
  | [] => none
  | first :: rest =>
    match rest.reverse.dropWhile isSilent with
    | last :: before =>
      (ofSegment last).map fun c => (ofSegments (first :: (before.dropWhile isSilent).reverse), c)
    | [] =>
      match leading p first with
      | none | some .root => none
      | some c => some ([], c)

def parent? (p : Bytes) : Option Bytes := (split? p).map (·.1)

def fileName? (p : Bytes) : Option Bytes :=
  match split? p with
  | some (_, .name n) => some n
  | _ => none

example : split? (utf8 "a//b/.".toList) = some (utf8 "a".toList, .name (utf8 "b".toList)) := by decide
example : split? (utf8 "//x".toList) = some (utf8 "/".toList, .name (utf8 "x".toList)) := by decide
example : split? (utf8 "./x".toList) = some (utf8 ".".toList, .name (utf8 "x".toList)) := by decide
example : split? (utf8 "/.".toList) = none := by decide

end Path

end Slipway
