import Slipway.Shell.Builtin
import Slipway.Shell.Script
set_option autoImplicit false

namespace Slipway.Shell

inductive Sink
  | out
  | err
  | file (path : Bytes)
deriving DecidableEq

structure Sinks where
  out : Sink
  err : Sink

def Sinks.of (k : Sinks) : Stream → Sink
  | .out => k.out
  | .err => k.err

def Sinks.set (k : Sinks) (s : Stream) (sink : Sink) : Sinks :=
  match s with
  | .out => { k with out := sink }
  | .err => { k with err := sink }

def deliver (m : Machine) (sink : Sink) (b : Bytes) : Machine :=
  match sink with
  | .out => { m with out := m.out ++ b }
  | .err => { m with err := m.err ++ b }
  | .file path =>
    match m.appendFile path b with
    | .ok m' => m'
    | .error _ => m

/-- Opens a file for writing, empty or as it is.  Whether it may be executed stays as it was. -/
def openFile (m : Machine) (path : Bytes) (keep : Bool) : Except Cause Machine :=
  if keep then m.appendFile path [] else m.writeFile path (m.isProgram path) []

def creationTrouble : Cause → Text
  | .os e => if e.isAbsence then "Directory nonexistent".toList else e.text
  | c => c.message

/-- Opens the file that a redirection names.  When it cannot be opened, the command is not run. -/
def openSink (s : Session) (line : Nat) (path : Bytes) (keep : Bool) : Except Session Session :=
  match openFile s.machine path keep with
  | .ok m => .ok { s with machine := m }
  | .error c =>
    let t := complaint s line ("cannot create ".toList ++ lossy path ++ ": ".toList ++ creationTrouble c)
    .error { s with machine := s.machine.printError t, status := 2 }

def redirect (s : Session) (line : Nat) : List Redirection → Sinks → Session × Option Sinks
  | [], k => (s, some k)
  | .duplicate stream source :: rest, k => redirect s line rest (k.set stream (k.of source))
  | .append stream w :: rest, k =>
    match openSink s line (expandWhole s w) true with
    | .ok s' => redirect s' line rest (k.set stream (.file (expandWhole s w)))
    | .error s' => (s', none)
  | .create stream w :: rest, k =>
    match openSink s line (expandWhole s w) false with
    | .ok s' => redirect s' line rest (k.set stream (.file (expandWhole s w)))
    | .error s' => (s', none)

def assignment? : Word → Option (Bytes × Word)
  | .literal [c] false :: rest =>
    if isNameStart c then
      let isPart : Fragment → Bool
        | .literal [d] false => isNamePart d
        | _ => false
      match rest.dropWhile isPart with
      | .literal ['='] false :: value =>
        some (utf8 (c :: (rest.takeWhile isPart).flatMap fun
          | .literal t _ => t
          | _ => []), value)
      | _ => none
    else none
  | _ => none

inductive Started
  | ended (e : Ending) (m : Machine)
  | failed (e : OsError) (status : Nat)

def statusOf : Ending → Nat
  | .exited n => n
  | .killed n => 128 + n

def signalNotice : Ending → Text
  | .exited _ => []
  | .killed n =>
    if n = 9 then "Killed\n".toList
    else if n = 15 then "Terminated\n".toList
    else if n = 1 then "Hangup\n".toList
    else if n = 6 then "Aborted\n".toList
    else []

def startTrouble (e : OsError) : Text := if e.isAbsence then "not found".toList else e.text

def launch (start : Machine → List Bytes → Started) (s : Session) (line : Nat) (lead : Text) (argv : List Bytes) :
    Session × Ending :=
  match start s.machine argv with
  | .ended e m => ({ s with machine := m, status := statusOf e }, e)
  | .failed e n =>
    let t := complaint s line (lead ++ lossy (argv.headD []) ++ ": ".toList ++ startTrouble e)
    ({ s with machine := s.machine.printError t, status := n }, .exited n)

/-- Runs a command and leaves its output on the machine's streams.  After `exec` the script is over. -/
def invoke (start : Machine → List Bytes → Started) (s : Session) (line : Nat) (argv : List Bytes) : Session :=
  match argv with
  | [] => { s with status := 0 }
  | name :: args =>
    if isWord "exec" name && args != [] then
      let (s, e) := launch start s line "exec: ".toList args
      { s with ending := some e }
    else match builtin? s line name args with
      | some s' => s'
      | none =>
        let (s, e) := launch start s line [] argv
        { s with machine := s.machine.printError (signalNotice e) }

/-- A simple command whose output goes where the redirections say.  Assignments alone change the shell's variables;
those in front of a command are only for that command. -/
def runSimple (start : Machine → List Bytes → Started) (s : Session) (line : Nat) (words : List Word)
    (redirections : List Redirection) : Session :=
  let isAssignment (w : Word) : Bool := (assignment? w).isSome
  let assignments := (words.takeWhile isAssignment).filterMap assignment?
  let commandWords := words.dropWhile isAssignment
  let s := if commandWords.isEmpty then assignments.foldl (fun s a => assign s a.1 (expandWhole s a.2)) s else s
  match redirect s line redirections ⟨.out, .err⟩ with
  | (s, none) => s
  | (s, some k) =>
    let before := s.machine
    let env := if commandWords.isEmpty then before.env
      else assignments.foldl (fun e a => e.set a.1 (expandWhole s a.2)) before.env
    let s := invoke start { s with machine := { before with env := env, out := [], err := [] } } line
      (commandWords.flatMap (expand { s with machine := before }))
    let produced := s.machine
    let m := { produced with
      env := if assignments.isEmpty then produced.env else before.env
      out := before.out
      err := before.err }
    { s with machine := deliver (deliver m k.out produced.out) k.err produced.err }

def Session.checked (s : Session) : Session :=
  if s.isStrict && s.status != 0 && s.ending.isNone then { s with ending := some (.exited s.status) } else s

/-- Runs a command.  A command that is `tested` may fail without harm to a strict script. -/
def run (start : Machine → List Bytes → Started) (tested : Bool) : Command → Session → Session
  | .skip, s => s
  | .simple line words redirections, s =>
    if s.ending.isSome then s
    else
      let s := runSimple start s line words redirections
      if tested then s else s.checked
  | .sequence c d, s => run start tested d (run start tested c s)
  | .both c d, s =>
    let s := run start true c s
    if s.status = 0 then run start tested d s else s
  | .either c d, s =>
    let s := run start true c s
    if s.status = 0 then s else run start tested d s
  | .negation c, s =>
    let s := run start true c s
    { s with status := if s.status = 0 then 1 else 0 }
  | .branch c yes no, s =>
    let s := run start true c s
    if s.status = 0 then run start tested yes { s with status := 0 } else run start tested no { s with status := 0 }
  | .each name words body, s =>
    (words.flatMap (expand s)).foldl
      (fun s v => if s.ending.isSome then s else run start tested body (assign s (utf8 name) v))
      { s with status := 0 }

def runText (start : Machine → List Bytes → Started) (m : Machine) (isStrict : Bool) (name : Bytes) (args : List Bytes)
    (content : Bytes) : Ending × Machine :=
  let s : Session := ⟨m, name, args, [], isStrict, 0, none⟩
  match script? (lossy content) with
  | none => (.exited 2, m.printError (complaint s 1 "Syntax error".toList))
  | some c =>
    let s := run start false c (noteDir s)
    (s.ending.getD (.exited s.status), s.machine)

end Slipway.Shell
