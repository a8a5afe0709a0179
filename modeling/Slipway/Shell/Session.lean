import Slipway.Machine.Files
import Slipway.Machine.Search
import Slipway.Shell.Word
set_option autoImplicit false

namespace Slipway

inductive Ending
  | exited (code : Nat)
  | killed (signal : Nat)
deriving DecidableEq

namespace Shell

/-- A shell at work.  Its variables are its environment and, apart from that, those that it does not pass on. -/
structure Session where
  machine : Machine
  name : Bytes
  args : List Bytes
  own : Env
  isStrict : Bool
  status : Nat
  ending : Option Ending

/-- A stand-in for the process number, which differs from run to run. -/
def processNumber : Text := "1000".toList

namespace Session

def lookup (s : Session) (n : Bytes) : Bytes := ((s.machine.env.get? n).or (s.own.get? n)).getD []

def values (s : Session) : Parameter → List Bytes
  | .positional 0 => [s.name]
  | .positional (n + 1) => [(s.args[n]?).getD []]
  | .joined => [joinWith [0x20] s.args]
  | .each => s.args
  | .count => [utf8 (natText s.args.length)]
  | .status => [utf8 (natText s.status)]
  | .self => [utf8 processNumber]
  | .variable n => [s.lookup (utf8 n)]

end Session

/-- What expansion makes of a fragment: bytes of the field under way, the mark that there is a field even if it is
empty, or the boundary between two fields. -/
inductive Atom
  | bytes (b : Bytes)
  | present
  | boundary

def isFieldBlank (b : UInt8) : Bool := b == 0x20 || b == 0x09 || b == 0x0A

def splitAtoms (v : Bytes) : List Atom := v.map fun b => if isFieldBlank b then .boundary else .bytes [b]

def between (sep : Atom) : List (List Atom) → List Atom
  | [] => []
  | [x] => x
  | x :: y :: ys => x ++ sep :: between sep (y :: ys)

def Fragment.atoms (s : Session) : Fragment → List Atom
  | .literal t true => [.present, .bytes (utf8 t)]
  | .literal t false => [.bytes (utf8 t)]
  | .value .each true => between .boundary (s.args.map fun a => [.present, .bytes a])
  | .value p true => .present :: (s.values p).map .bytes
  | .value .joined false => between .boundary (s.args.map splitAtoms)
  | .value .each false => between .boundary (s.args.map splitAtoms)
  | .value p false => (s.values p).flatMap splitAtoms
  | .length p isQuoted =>
    let n := utf8 (natText ((s.values p).headD []).length)
    if isQuoted then [.present, .bytes n] else [.bytes n]
  | .valueOr p otherwise isQuoted =>
    let v := joinWith [0x20] (s.values p)
    let v := if v = [] then utf8 otherwise else v
    if isQuoted then [.present, .bytes v] else splitAtoms v

def fieldsFrom : Option Bytes → List Atom → List Bytes
  | none, [] => []
  | some f, [] => [f]
  | f, .bytes b :: rest => if b = [] then fieldsFrom f rest else fieldsFrom (some (f.getD [] ++ b)) rest
  | f, .present :: rest => fieldsFrom (some (f.getD [])) rest
  | none, .boundary :: rest => fieldsFrom none rest
  | some f, .boundary :: rest => f :: fieldsFrom none rest

def expand (s : Session) (w : Word) : List Bytes := fieldsFrom none (w.flatMap (Fragment.atoms s))

def expandWhole (s : Session) (w : Word) : Bytes :=
  (w.flatMap (Fragment.atoms s)).flatMap fun
    | .bytes b => b
    | .present => []
    | .boundary => [0x20]

def assign (s : Session) (n v : Bytes) : Session :=
  if (s.machine.env.get? n).isSome then { s with machine := { s.machine with env := s.machine.env.set n v } }
  else { s with own := s.own.set n v }

def exportVariable (s : Session) (operand : Bytes) : Session :=
  let n := operand.takeWhile (· != 0x3D)
  let v := if operand.elem 0x3D then operand.drop (n.length + 1) else s.lookup n
  { s with
    machine := { s.machine with env := s.machine.env.set n v }
    own := s.own.unset n }

def dirVar : Bytes := utf8 "PWD".toList

def noteDir (s : Session) : Session :=
  match s.machine.currentDir? with
  | some d => assign s dirVar d
  | none => s

def complaint (s : Session) (line : Nat) (t : Text) : Text :=
  lossy s.name ++ ": ".toList ++ natText line ++ ": ".toList ++ t ++ ['\n']

end Shell

end Slipway
