import Slipway.DotEnv.Lines
import Slipway.Text.Alphanumeric
set_option autoImplicit false

namespace Slipway.DotEnv

/-- What is left of a line, and how many bytes of it have been read. -/
structure Cursor where
  rest : Text
  pos : Nat

namespace Cursor

def skipBlanks (c : Cursor) : Cursor :=
  ⟨c.rest.dropWhile isBlank, c.pos + (utf8 (c.rest.takeWhile isBlank)).length⟩

def isNameChar (c : Char) : Bool := c.isAlphanum || c == '_' || c == '.'

def name? (c : Cursor) : Option (Text × Cursor) :=
  match c.rest with
  | x :: _ =>
    if x.isAlpha || x == '_' then
      let n := c.rest.takeWhile isNameChar
      some (n, ⟨c.rest.dropWhile isNameChar, c.pos + n.length⟩)
    else none
  | [] => none

def equals? (c : Cursor) : Option Cursor :=
  match c.rest with
  | '=' :: rest => some ⟨rest, c.pos + 1⟩
  | _ => none

end Cursor

inductive Quote
  | none
  | strong
  | weak
deriving DecidableEq

inductive Reference
  | none
  | bare
  | braced
deriving DecidableEq

structure ValueState where
  quote : Quote
  escaped : Bool
  /-- A blank outside quotes has ended the value. -/
  ended : Bool
  reference : Reference
  name : Text
  output : Text

namespace ValueState

def start : ValueState := ⟨.none, false, false, .none, [], []⟩

def put (s : ValueState) (c : Char) : ValueState := { s with output := s.output ++ [c] }

def substitute (vars : Text → Text) (s : ValueState) : ValueState :=
  { s with output := s.output ++ vars s.name, name := [] }

/-- A character inside a reference.  The one that ends a bare reference stands for itself, whatever it is, unless
it begins the next one. -/
def inReference (vars : Text → Text) (c : Char) (s : ValueState) : ValueState :=
  if isAlphanumeric c then { s with name := s.name ++ [c] }
  else match s.reference with
    | .braced =>
      if c == '\x7d' then { s.substitute vars with reference := .none }
      else { s with name := s.name ++ [c] }
    | _ =>
      if c == '\x7b' && s.name.isEmpty then { s with reference := .braced }
      else
        let s := s.substitute vars
        if c == '$' then { s with reference := .bare } else { s with reference := .none }.put c

def plain (c : Char) (s : ValueState) : ValueState :=
  if c == '$' then { s with reference := .bare }
  else if s.quote = .weak then
    if c == '\x22' then { s with quote := .none }
    else if c == '\\' then { s with escaped := true }
    else s.put c
  else if c == '\x27' then { s with quote := .strong }
  else if c == '\x22' then { s with quote := .weak }
  else if c == '\\' then { s with escaped := true }
  else if c == ' ' || c == '\t' then { s with ended := true }
  else s.put c

def unescaped? (c : Char) : Option Char :=
  if c == '\\' || c == '\x27' || c == '\x22' || c == '$' || c == ' ' then some c
  else if c == 'n' then some '\n'
  else none

/-- Reads characters, the first of which is the `i`-th, up to the end or to a comment; or tells at which one the
reading fails. -/
def run (vars : Text → Text) : Nat → Text → ValueState → Except Nat ValueState
  | _, [], s => .ok s
  | i, c :: cs, s =>
    if s.ended then
      if c == ' ' || c == '\t' then run vars (i + 1) cs s
      else if c == '#' then .ok s
      else .error i
    else if s.escaped then
      match unescaped? c with
      | some x => run vars (i + 1) cs ({ s with escaped := false }.put x)
      | none => .error i
    else if s.quote = .strong then
      run vars (i + 1) cs (if c == '\x27' then { s with quote := .none } else s.put c)
    else if s.reference ≠ .none then run vars (i + 1) cs (s.inReference vars c)
    else run vars (i + 1) cs (s.plain c)

end ValueState

def readValue (vars : Text → Text) (t : Text) : Except Trouble Text :=
  match ValueState.run vars 0 t .start with
  | .error i => .error (.malformed t i)
  | .ok s =>
    if s.reference = .braced || s.quote ≠ .none then .error (.malformed t ((utf8 t).length - 1))
    else .ok (s.substitute vars).output

structure Assignment where
  name : Text
  /-- `none` when nothing follows the equals sign, which assigns the empty text. -/
  value : Option Text
deriving DecidableEq

def exportWord : Text := "export".toList

/-- The name up to the equals sign, and the rest.  The word `export` may itself be the name. -/
def readName (line : Text) (c : Cursor) : Except Trouble (Text × Cursor) :=
  let name (c : Cursor) : Except Trouble (Text × Cursor) :=
    match c.name? with
    | some (n, c) => .ok (n, c.skipBlanks)
    | none => .error (.malformed line c.pos)
  let equals (c : Cursor) : Except Trouble Cursor :=
    match c.equals? with
    | some c => .ok c
    | none => .error (.malformed line c.pos)
  do
    let (n, c) ← name c
    if n == exportWord && c.equals?.isNone then
      let (n, c) ← name c
      return (n, ← equals c)
    else return (n, ← equals c)

def isEmptyOrComment (t : Text) : Bool := t.isEmpty || t.head? == some '#'

def readLine (vars : Text → Text) (line : Text) : Except Trouble (Option Assignment) :=
  let c := (Cursor.mk (trimEnd line) 0).skipBlanks
  if isEmptyOrComment c.rest then .ok none
  else do
    let (n, c) ← readName line c
    let c := c.skipBlanks
    if isEmptyOrComment c.rest then return some ⟨n, none⟩
    else return some ⟨n, some (← readValue vars c.rest)⟩

end Slipway.DotEnv
