import Slipway.Shell.Print
import Slipway.Shell.Session
set_option autoImplicit false

namespace Slipway.Shell

def ofBool (b : Bool) : Nat := if b then 0 else 1

def signals : List (Nat × String) :=
  [(1, "HUP"), (2, "INT"), (3, "QUIT"), (4, "ILL"), (5, "TRAP"), (6, "ABRT"), (7, "BUS"), (8, "FPE"), (9, "KILL"),
    (10, "USR1"), (11, "SEGV"), (12, "USR2"), (13, "PIPE"), (14, "ALRM"), (15, "TERM")]

def signal? (b : Bytes) : Option Nat :=
  (signals.find? fun g => isWord g.2 b || utf8 (natText g.1) == b).map (·.1)

def killRequest? : List Bytes → Option (Option Nat × Bytes)
  | [p] => some (some 15, p)
  | [0x2D :: name, p] => some (signal? name, p)
  | [option, name, p] => if isWord "-s" option then some (signal? name, p) else none
  | _ => none

def setOptions (s : Session) : List Bytes → Session
  | [] => s
  | word :: rest =>
    if isWord "--" word then { s with args := rest }
    else match word with
      | 0x2D :: letters => setOptions { s with isStrict := s.isStrict || letters.elem 0x65 } rest
      | 0x2B :: letters => setOptions { s with isStrict := s.isStrict && !letters.elem 0x65 } rest
      | _ => { s with args := word :: rest }

def builtin? (s : Session) (line : Nat) (name : Bytes) (args : List Bytes) : Option Session :=
  let ends (n : Nat) : Option Session := some { s with status := n }
  let prints (b : Bytes) : Option Session :=
    some { s with machine := { s.machine with out := s.machine.out ++ b }, status := 0 }
  let fails (t : Text) : Option Session :=
    some { s with machine := s.machine.printError (complaint s line t), status := 2 }
  let judged (r : Option Bool) : Option Session :=
    match r with
    | some b => ends (ofBool b)
    | none => fails (lossy name ++ ": unexpected operator".toList)
  if isWord "echo" name then prints (echoOutput args)
  else if isWord ":" name || isWord "true" name then ends 0
  else if isWord "false" name then ends 1
  else if isWord "test" name then judged (testWords s.machine args)
  else if isWord "[" name then
    match args.getLast? with
    | some z =>
      if isWord "]" z then judged (testWords s.machine args.dropLast) else fails "[: missing ]".toList
    | none => fails "[: missing ]".toList
  else if isWord "exit" name then
    match args with
    | [] => some { s with ending := some (.exited s.status) }
    | a :: _ =>
      match integer? a with
      | some (.ofNat n) => some { s with ending := some (.exited (n % 256)) }
      | _ =>
        (fails ("exit: Illegal number: ".toList ++ lossy a)).map fun s => { s with ending := some (.exited 2) }
  else if isWord "kill" name then
    match killRequest? args with
    | some (some n, p) => if p == utf8 processNumber then some { s with ending := some (.killed n) } else ends 1
    | some (none, _) => ends 1
    | none => ends 2
  else if isWord "cd" name then
    match s.machine.changeDir (args.headD (s.lookup Machine.homeVar)) with
    | .ok m => some { noteDir { s with machine := m } with status := 0 }
    | .error _ => fails ("cd: can't cd to ".toList ++ lossy (args.headD []))
  else if isWord "printf" name then
    match args with
    | [] => fails "printf: usage: printf format [arg ...]".toList
    | format :: operands =>
      match formatted format (operands.length + 1) operands with
      | some b => prints b
      | none => fails "printf: invalid directive".toList
  else if isWord "read" name then
    some { args.foldl (fun s n => assign s n []) s with status := 1 }
  else if isWord "export" name then some { args.foldl exportVariable s with status := 0 }
  else if isWord "unset" name then
    some { s with
      machine := { s.machine with env := args.foldl Env.unset s.machine.env }
      own := args.foldl Env.unset s.own
      status := 0 }
  else if isWord "pwd" name then prints ((s.machine.currentDir?).getD [] ++ [0x0A])
  else if isWord "set" name then some { setOptions s args with status := 0 }
  else if isWord "shift" name then some { s with args := s.args.tail, status := 0 }
  else none

end Slipway.Shell
