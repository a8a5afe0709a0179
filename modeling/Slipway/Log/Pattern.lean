import Slipway.Log.Pattern.Bracket
set_option autoImplicit false

/-!
Regular expressions as values of fields in directives.  Nothing here ever matches one, since the fields of events
are not compared with values; but a directive counts only if its pattern is well formed, so this says which are.
A value ends before a comma or a closing brace, which leaves no room for counted repetition.
-/

namespace Slipway.Log.Pattern

/-- What can stand before a sign of repetition, and what cannot. -/
inductive Item
  | part (depth : Nat)
  | setFlags

def Item.depth : Item → Nat
  | .part d => d
  | .setFlags => 0

/-- The inside of a group under way: the depths of the alternatives that are complete, and the row of the one that
is not, the latest first. -/
structure Level where
  complete : List Nat
  row : List Item

namespace Level

def empty : Level := ⟨[], []⟩

def add (l : Level) (i : Item) : Level := { l with row := i :: l.row }

def alternate (l : Level) : Level := ⟨l.complete ++ [rowDepth (l.row.map Item.depth)], []⟩

def depth (l : Level) : Nat := rowDepth l.alternate.complete

def repeatLast (l : Level) : Option Level :=
  match l.row with
  | .part d :: rest => some { l with row := .part (d + 1) :: rest }
  | _ => none

end Level

/-- How far the reading has come: the flags in force, the innermost group under way and those around it, each with
the flags that come back into force behind it, and the names of groups so far. -/
structure Progress where
  flags : Flags
  level : Level
  outer : List (Flags × Level)
  names : List Text

namespace Progress

def start : Progress := ⟨⟨false, true⟩, .empty, [], []⟩

def add (p : Progress) (i : Item) : Progress := { p with level := p.level.add i }

def openGroup (p : Progress) (inside : Flags) : Progress :=
  { p with flags := inside, level := .empty, outer := (p.flags, p.level) :: p.outer }

def closeGroup (p : Progress) : Option Progress :=
  match p.outer with
  | (flags, level) :: outer =>
    some { p with flags := flags, level := level.add (.part (1 + p.level.depth)), outer := outer }
  | [] => none

end Progress

def flagSigns : Text := "imsUuRx-".toList

def Flags.ofSigns (f : Flags) (signs : Text) : Flags :=
  let on := signs.takeWhile (· != '-')
  let set (c : Char) (old : Bool) : Bool := if on.elem c then true else if signs.elem c then false else old
  ⟨set 'x' f.spaced, set 'u' f.wide⟩

def areFlags (signs : Text) : Bool :=
  signs.all flagSigns.elem && firstOccurrences signs == signs && signs.getLast? != some '-'

def isGroupName (name : Text) : Bool :=
  match name with
  | [] => false
  | c :: cs => (c == '_' || isAlphabetic c) && cs.all fun d => "_.[]".toList.elem d || isAlphanumeric d

def openNamed (p : Progress) (t : Text) : Option (Progress × Text) :=
  let name := t.takeWhile (· != '>')
  match t.dropWhile (· != '>') with
  | _ :: rest =>
    if isGroupName name && !p.names.elem name then
      some ({ p with names := name :: p.names }.openGroup p.flags, rest)
    else none
  | [] => none

/-- A group with flags, or flags for the rest of the group they stand in. -/
def openFlagged (p : Progress) (t : Text) : Option (Progress × Text) :=
  let isEnd (c : Char) : Bool := c == ':' || c == ')'
  let signs := t.takeWhile (!isEnd ·)
  let flags := p.flags.ofSigns signs
  if !areFlags signs then none
  else match t.dropWhile (!isEnd ·) with
    | [] => none
    | ':' :: rest => some (p.openGroup flags, rest)
    | _ :: rest => if signs.isEmpty then none else some ({ p with flags := flags }.add .setFlags, rest)

def openAny (p : Progress) (t : Text) : Option (Progress × Text) :=
  match p.flags.skip t with
  | '?' :: 'P' :: '<' :: rest => openNamed p rest
  | '?' :: '<' :: rest => openNamed p rest
  | '?' :: rest => openFlagged p rest
  | rest => some (p.openGroup p.flags, rest)

def dropLazy (t : Text) : Text := if t.head? == some '?' then t.tail else t

def readNext (p : Progress) (c : Char) (cs : Text) : Option (Progress × Text) :=
  if c == '(' then openAny p cs
  else if c == ')' then p.closeGroup.map (·, cs)
  else if c == '|' then some ({ p with level := p.level.alternate }, cs)
  else if c == '?' || c == '*' || c == '+' then
    p.level.repeatLast.map fun l => ({ p with level := l }, dropLazy cs)
  else if c == '\x7b' then none
  else if c == '.' then if p.flags.wide then some (p.add (.part 0), cs) else none
  else if c == '[' then
    let (b, rest) := Bracket.start p.flags cs
    (readBracket p.flags (cs.length + 1) b [] rest).map fun r => (p.add (.part r.1), r.2)
  else if c == '\\' then (readEscape p.flags cs).map fun r => (p.add (.part 0), r.2)
  else some (p.add (.part 0), cs)

def depth? : Nat → Progress → Text → Option Nat
  | 0, _, _ => none
  | fuel + 1, p, t =>
    match p.flags.skip t with
    | [] => if p.outer.isEmpty then some p.level.depth else none
    | c :: cs =>
      match readNext p c cs with
      | some (p', rest) => depth? fuel p' rest
      | none => none

def depthLimit : Nat := 250

/-- Whether the text is a regular expression, and one that an automaton can match. -/
def isWellFormed (t : Text) : Bool :=
  match depth? (t.length + 1) .start t with
  | some d => d ≤ depthLimit
  | none => false

end Slipway.Log.Pattern
