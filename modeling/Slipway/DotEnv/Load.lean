import Slipway.DotEnv.Assignment
import Slipway.Machine.Files
set_option autoImplicit false

/-!
Filling the gaps of the environment from the nearest `.env` file: the first regular file of that name in the
current directory or one above it.  Lines take effect one by one, so what stands before a malformed line has been
assigned when the loading stops there.  A variable that already has a textual value keeps it.
-/

namespace Slipway.DotEnv

/-- An environment cannot hold a value with a NUL in it, and one that is not text cannot be read as text.  Either
brings the program down. -/
inductive Crash
  | nulInValue (name value : Text)
  | notText (bytes : Bytes)
deriving DecidableEq

/-- The value of a variable as a substitution sees it: an entry of the environment counts as one text
`NAME=value`, so a name with an equals sign in it may match across that sign. -/
def entryValue? (e : Env) (name : Text) : Option Text :=
  let bytes := utf8 name
  match bytes.dropWhile (· != 0x3D) with
  | [] => e.text? name
  | _ :: more =>
    (e.get? (bytes.takeWhile (· != 0x3D))).bind fun v =>
      if (more ++ [0x3D]).isPrefixOf v then decode? (v.drop (more.length + 1)) else none

/-- What the lines before have assigned, the latest first. -/
abbrev Assigned := List (Text × Option Text)

/-- The environment goes before the file's own assignments; an unknown variable is empty. -/
def valueOf (e : Env) (seen : Assigned) (name : Text) : Text :=
  (entryValue? e name).getD (((seen.lookup name).join).getD [])

def assign (e : Env) (a : Assignment) : Except Crash Env :=
  if (e.text? a.name).isSome then .ok e
  else
    let v := a.value.getD []
    if v.elem '\x00' then .error (.nulInValue a.name v) else .ok (e.set (utf8 a.name) (utf8 v))

def applyLines : List (Except Trouble Text) → Assigned → Env → Except Crash (Env × Option Trouble)
  | [], _, e => .ok (e, none)
  | .error t :: _, _, e => .ok (e, some t)
  | .ok line :: rest, seen, e =>
    match readLine (valueOf e seen) line with
    | .error t => .ok (e, some t)
    | .ok none => applyLines rest seen e
    | .ok (some a) =>
      match assign e a with
      | .ok e' => applyLines rest ((a.name, a.value) :: seen) e'
      | .error c => .error c

def applyContent (content : Bytes) (e : Env) : Except Crash (Env × Option Trouble) :=
  applyLines (logicalLines content) [] e

def fileName : Bytes := utf8 ".env".toList

inductive Search
  | found (content : Bytes)
  | nowhere
  | failed (c : Cause)

def searchIn (m : Machine) : List Bytes → Search
  | [] => .nowhere
  | d :: ds =>
    match m.locate (Path.join d fileName) with
    | .ok (.file _ _ content) => .found content
    | .ok _ => searchIn m ds
    | .error c => if c = .os .noEntry then searchIn m ds else .failed c

/-- The current directory and those above it, innermost first. -/
def places (l : Location) : List Bytes :=
  (List.range (l.length + 1)).reverse.map fun n => Location.path (l.take n)

def search (m : Machine) : Search :=
  match m.currentDir? with
  | some _ => searchIn m (places m.place.location)
  | none => .nowhere

inductive Complaint
  | cause (c : Cause)
  | trouble (t : Trouble)

def Complaint.message : Complaint → Text
  | .cause c => c.message
  | .trouble .notText => "stream did not contain valid UTF-8".toList
  | .trouble (.malformed t i) =>
    "Error parsing line: '".toList ++ t ++ "', error at line index: ".toList ++ natText i

def load (m : Machine) : Except Crash (Machine × Option Complaint) :=
  match search m with
  | .nowhere => .ok (m, none)
  | .failed c => .ok (m, some (.cause c))
  | .found content =>
    match applyContent content m.env with
    | .ok (e, t) => .ok ({ m with env := e }, t.map .trouble)
    | .error c => .error c

end Slipway.DotEnv
