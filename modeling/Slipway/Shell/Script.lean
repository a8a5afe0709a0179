import Slipway.Shell.Word
set_option autoImplicit false

/-!
Shell scripts of a small kind, as the stand-ins for tools are written: simple commands with redirections, `&&`,
`||`, `!`, `if`, `for` over a list of words, groups in braces, and parameters.  There are no functions, pipes, patterns
or other loops, so every script comes to its end.  A text outside this kind has no reading.
-/

namespace Slipway.Shell

inductive Command
  | skip
  | simple (line : Nat) (words : List Word) (redirections : List Redirection)
  | sequence (first second : Command)
  | both (first second : Command)
  | either (first second : Command)
  | negation (c : Command)
  | branch (condition yes no : Command)
  | each (name : Text) (words : List Word) (body : Command)

structure Input where
  rest : List Token
  line : Nat

namespace Input

def next? (i : Input) : Option (Token × Input) :=
  match i.rest with
  | [] => none
  | t :: ts => some (t, ⟨ts, if t = .newline then i.line + 1 else i.line⟩)

def skipNewlines : Nat → Input → Input
  | 0, i => i
  | fuel + 1, i =>
    match i.next? with
    | some (.newline, i') => skipNewlines fuel i'
    | _ => i

def startsWith (i : Input) (word : String) : Bool :=
  match i.rest with
  | t :: _ => plainWord? t == some word.toList
  | [] => false

def expect (word : String) (i : Input) : Option Input :=
  if i.startsWith word then i.next?.map (·.2) else none

end Input

def readSimple : Nat → Input → List Word → List Redirection → List Word × List Redirection × Input
  | 0, i, ws, rs => (ws, rs, i)
  | fuel + 1, i, ws, rs =>
    match i.next? with
    | some (.word w, i') => readSimple fuel i' (ws ++ [w]) rs
    | some (.redirection r, i') => readSimple fuel i' ws (rs ++ [r])
    | _ => (ws, rs, i)

def closers : List String := ["then", "elif", "else", "fi", "do", "done", "\x7d"]

/-- The words a loop runs over, and what comes after the mark that ends them.  Without `in` these are the arguments. -/
def readLoopWords (i : Input) : Option (List Word × Input) :=
  let pastMark (ws : List Word) (i : Input) : Option (List Word × Input) :=
    match i.next? with
    | some (.semicolon, i') => some (ws, i')
    | some (.newline, i') => some (ws, i')
    | _ => none
  match i.expect "in" with
  | some i' =>
    match readSimple i'.rest.length i' [] [] with
    | (ws, [], j) => pastMark ws j
    | _ => none
  | none => (pastMark [[.value .each true]] i).or (some ([[.value .each true]], i))

mutual

def readList : Nat → Input → Option (Command × Input)
  | 0, _ => none
  | fuel + 1, i =>
    let i := i.skipNewlines fuel
    if i.rest = [] || closers.any i.startsWith then some (.skip, i)
    else match readChain fuel i with
      | none => none
      | some (c, i) =>
        match i.next? with
        | some (.semicolon, i') => (readList fuel i').map fun (d, j) => (.sequence c d, j)
        | some (.newline, i') => (readList fuel i').map fun (d, j) => (.sequence c d, j)
        | _ => some (c, i)

def readChain : Nat → Input → Option (Command × Input)
  | 0, _ => none
  | fuel + 1, i => (readCommand fuel i).bind fun (c, j) => readJoined fuel c j

def readJoined : Nat → Command → Input → Option (Command × Input)
  | 0, _, _ => none
  | fuel + 1, c, i =>
    match i.next? with
    | some (.both, i') =>
      (readCommand fuel (i'.skipNewlines fuel)).bind fun (d, j) => readJoined fuel (.both c d) j
    | some (.either, i') =>
      (readCommand fuel (i'.skipNewlines fuel)).bind fun (d, j) => readJoined fuel (.either c d) j
    | _ => some (c, i)

def readCommand : Nat → Input → Option (Command × Input)
  | 0, _ => none
  | fuel + 1, i =>
    match i.expect "!" with
    | some i' => (readCommand fuel i').map fun (c, j) => (.negation c, j)
    | none =>
      match i.expect "if" with
      | some i' => readBranch fuel i'
      | none =>
        match i.expect "for" with
        | some i' => readLoop fuel i'
        | none =>
          match i.expect "\x7b" with
          | some i' => (readList fuel i').bind fun (c, j) => (j.expect "\x7d").map fun j => (c, j)
          | none =>
            match readSimple i.rest.length i [] [] with
            | ([], [], _) => none
            | (ws, rs, j) => some (.simple i.line ws rs, j)

def readBranch : Nat → Input → Option (Command × Input)
  | 0, _ => none
  | fuel + 1, i => do
    let (condition, i) ← readList fuel i
    let i ← i.expect "then"
    let (yes, i) ← readList fuel i
    match i.expect "elif" with
    | some i =>
      let (no, i) ← readBranch fuel i
      return (.branch condition yes no, i)
    | none =>
      match i.expect "else" with
      | some i =>
        let (no, i) ← readList fuel i
        let i ← i.expect "fi"
        return (.branch condition yes no, i)
      | none =>
        let i ← i.expect "fi"
        return (.branch condition yes .skip, i)

def readLoop : Nat → Input → Option (Command × Input)
  | 0, _ => none
  | fuel + 1, i => do
    let (t, i) ← i.next?
    let name ← plainWord? t
    let (ws, i) ← readLoopWords i
    let i ← (i.skipNewlines fuel).expect "do"
    let (body, i) ← readList fuel i
    let i ← i.expect "done"
    return (.each name ws body, i)

end

def script? (t : Text) : Option Command :=
  (tokens (t.length + 1) t).bind fun ts =>
    match readList (4 * ts.length + 4) ⟨ts, 1⟩ with
    | some (c, i) => if i.rest = [] then some c else none
    | none => none

end Slipway.Shell
