import Slipway.Path
set_option autoImplicit false

/-!
Lexical resolution: a path is made absolute from a starting directory by its components alone, links or not.
The first component says where to start (the root, the starting directory or its parent); after that `.` is
dropped, a name is added and `..` takes the last component away, except that nothing goes above the root.
-/

namespace Slipway.Path

/-- The place where a path with first component `c` starts, seen from `base`. -/
def origin (base : Bytes) : Component → List Component
  | .root => [.root]
  | .here => components base
  | .up =>
    match parent? base with
    | some p => components p
    | none => if isAbsolute base then [.root] else []
  | .name n => components base ++ [.name n]

def step (before : List Component) : Component → List Component
  | .here | .root => before
  | .up => if before == [.root] then before else before.dropLast
  | .name n => before ++ [.name n]

def ofComponents : List Component → Bytes
  | [.root] => [slash]
  | .root :: cs => slash :: joinWith [slash] (cs.map Component.bytes)
  | cs => joinWith [slash] (cs.map Component.bytes)

def absolute (base p : Bytes) : Bytes :=
  match components p with
  | [] => []
  | c :: cs => ofComponents (cs.foldl step (origin base c))

example : absolute (utf8 "/a/../b".toList) (utf8 "../x/./y".toList) = utf8 "/a/../x/y".toList := by decide
example : absolute (utf8 "/w".toList) (utf8 "/opt//x/../y".toList) = utf8 "/opt/y".toList := by decide
example : absolute (utf8 "/w".toList) (utf8 "../../..".toList) = utf8 "/".toList := by decide

end Slipway.Path
