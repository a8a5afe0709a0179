import Slipway.Machine.Basic
set_option autoImplicit false

/-!
Files that can be executed: the shell, and scripts whose first line names an interpreter that can be executed.  In the
end it is always the shell that runs, so what counts is the words it is called with (`Machine.shellWords`).
-/

namespace Slipway

structure Interpreter where
  path : Bytes
  word : Option Bytes

namespace Interpreter

def mark : Bytes := utf8 "#!".toList

def window : Nat := 256

def isBlankByte (b : UInt8) : Bool := b == 0x20 || b == 0x09

def isEnd (b : UInt8) : Bool := isBlankByte b || b == 0

/-- The line behind the mark.  A line that goes past the window counts as far as it is seen, but the path must have
ended by then.  Behind the end of a file there are zeros. -/
def line? (content : Bytes) : Option Bytes :=
  let seen := content.take window ++ List.replicate (window - content.length) 0
  if !mark.isPrefixOf content then none
  else
    let rest := seen.drop mark.length
    if rest.elem 0x0A then some (rest.takeWhile (· != 0x0A))
    else if (rest.dropWhile isBlankByte).any isEnd then some rest.dropLast
    else none

def ofContent? (content : Bytes) : Option Interpreter :=
  (line? content).bind fun line =>
    match ((line.reverse.dropWhile isBlankByte).reverse).dropWhile isBlankByte with
    | [] => none
    | l =>
      some {
        path := l.takeWhile (!isEnd ·)
        word := match l.dropWhile (!isEnd ·) with
          | [] => none
          | b :: rest => if b == 0 then none else some ((rest.dropWhile isBlankByte).takeWhile (· != 0)) }

example : (ofContent? (utf8 "#! /bin/sh -e \n".toList)).map (fun i => (i.path, i.word)) =
    some (utf8 "/bin/sh".toList, some (utf8 "-e".toList)) := by decide

end Interpreter

namespace Machine

/-- The shell, which is the one program that is no script. -/
def shellLocation : Location := ["bin".toList, "sh".toList].map utf8

/-- Opens a file to execute it.  An empty path, which only a script can ask for, is the current directory. -/
def openProgram (m : Machine) (path : Bytes) : Except OsError (Location × Bytes) :=
  match m.locate path with
  | .ok (.file l executable content) => if executable then .ok (l, content) else .error .accessDenied
  | .ok (.dir _) | .ok (.device _) => .error .accessDenied
  | .ok _ => .error .noEntry
  | .error (.os e) => if path = [] then .error .accessDenied else .error e
  | .error _ => .error .noEntry

/-- What executing a file comes to: the words with which the shell is called before the arguments that are given.  An
interpreter may be a script in its turn, down to the given depth. -/
def shellWordsWithin (m : Machine) : Nat → Bytes → Except OsError (List Bytes)
  | 0, path =>
    match m.openProgram path with
    | .ok _ => .error .tooManyLinks
    | .error e => .error e
  | depth + 1, path =>
    match m.openProgram path with
    | .error e => .error e
    | .ok (l, content) =>
      if l = shellLocation then .ok []
      else match Interpreter.ofContent? content with
        | none => .error .badFormat
        | some i => (shellWordsWithin m depth i.path).map (· ++ i.word.toList ++ [path])

def interpreterLimit : Nat := 6

def shellWords (m : Machine) (path : Bytes) : Except OsError (List Bytes) := m.shellWordsWithin interpreterLimit path

end Machine

end Slipway
