import Slipway.Machine.Files
import Slipway.Shell.Word
set_option autoImplicit false

namespace Slipway.Shell

def isWord (w : String) (b : Bytes) : Bool := utf8 w.toList == b

def integer? (b : Bytes) : Option Int :=
  match decode? b with
  | some ('-' :: t) => (natOfText? t).map fun n => -(n : Int)
  | some t => (natOfText? t).map fun n => (n : Int)
  | none => none

def compareIntegers (op : Bytes) (a b : Int) : Option Bool :=
  if isWord "-eq" op then some (a == b)
  else if isWord "-ne" op then some (a != b)
  else if isWord "-lt" op then some (a < b)
  else if isWord "-le" op then some (a ≤ b)
  else if isWord "-gt" op then some (b < a)
  else if isWord "-ge" op then some (b ≤ a)
  else none

def unaryTest (m : Machine) (op v : Bytes) : Option Bool :=
  if isWord "-n" op then some (v != [])
  else if isWord "-z" op then some (v == [])
  else if isWord "-f" op then some (m.isFile v)
  else if isWord "-d" op then some (m.isDir v)
  else if isWord "-x" op then some (m.isProgram v || m.isDir v)
  else if isWord "-e" op || isWord "-r" op || isWord "-w" op then some (m.isThere v)
  else if isWord "-s" op then
    some (m.isDir v || match m.contentOf v with
      | .ok b => b != []
      | .error _ => false)
  else if isWord "-h" op || isWord "-L" op then
    some (match m.tree.locate false m.place v with
      | .ok (.link ..) => true
      | _ => false)
  else none

def testWords (m : Machine) : List Bytes → Option Bool
  | [] => some false
  | [a] => some (a != [])
  | [a, b] => if isWord "!" a then some (b == []) else unaryTest m a b
  | [a, op, b] =>
    if isWord "=" op then some (a == b)
    else if isWord "!=" op then some (a != b)
    else match integer? a, integer? b with
      | some x, some y => compareIntegers op x y
      | _, _ => if isWord "!" a then (unaryTest m op b).map (!·) else none
  | a :: rest => if isWord "!" a then (testWords m rest).map (!·) else none

end Slipway.Shell
