import Slipway.Log.Pattern.Escape
set_option autoImplicit false

/-!
Classes in brackets: unions of characters, ranges, named classes and other brackets, and two such unions under a set
operation.  Where bytes are matched a class must stay within ASCII, and it holds all bytes past ASCII or none, so
one truth value follows it through the operations.
-/

namespace Slipway.Log.Pattern

/-- How deep a row of parts nests: one part stands for itself. -/
def rowDepth : List Nat → Nat
  | [] => 0
  | [d] => d
  | ds => 1 + ds.foldl max 0

/-- A class: how deep it nests, and whether it holds what is past ASCII. -/
structure Extent where
  depth : Nat
  past : Bool

inductive SetOperation
  | intersection
  | difference
  | symmetricDifference

def SetOperation.ofSign? (c : Char) : Option SetOperation :=
  if c == '&' then some .intersection
  else if c == '-' then some .difference
  else if c == '~' then some .symmetricDifference
  else none

def SetOperation.apply (o : SetOperation) (a b : Extent) : Extent where
  depth := 1 + max a.depth b.depth
  past :=
    match o with
    | .intersection => a.past && b.past
    | .difference => a.past && !b.past
    | .symmetricDifference => a.past != b.past

structure Bracket where
  negated : Bool
  /-- Nothing has been met yet but hyphens. -/
  fresh : Bool
  left : Option (SetOperation × Extent)
  union : List Extent

namespace Bracket

def add (b : Bracket) (e : Extent) : Bracket := { b with union := b.union ++ [e] }

def value (b : Bracket) : Extent :=
  let right : Extent := ⟨rowDepth (b.union.map Extent.depth), b.union.any Extent.past⟩
  match b.left with
  | some (o, l) => o.apply l right
  | none => right

def operate (b : Bracket) (o : SetOperation) : Bracket := { b with left := some (o, b.value), union := [] }

def close (b : Bracket) (f : Flags) : Option Extent :=
  let past := b.value.past != b.negated
  if past && !f.wide then none else some ⟨1 + b.value.depth, past⟩

def start (f : Flags) (t : Text) : Bracket × Text :=
  match f.skip t with
  | '^' :: rest => (⟨true, true, none, []⟩, rest)
  | rest => (⟨false, true, none, []⟩, rest)

end Bracket

def asciiClasses : List Text :=
  ["alnum", "alpha", "ascii", "blank", "cntrl", "digit", "graph", "lower", "print", "punct", "space", "upper",
    "word", "xdigit"].map String.toList

def asciiClass? : Text → Option (Bool × Text)
  | ':' :: t =>
    let (negated, t) := match t with
      | '^' :: rest => (true, rest)
      | t => (false, t)
    match t.dropWhile (· != ':') with
    | ':' :: ']' :: rest => if asciiClasses.elem (t.takeWhile (· != ':')) then some (negated, rest) else none
    | _ => none
  | _ => none

def readMember (f : Flags) (t : Text) : Option (Atom × Text) :=
  let read := match t with
    | [] => none
    | '\\' :: rest => readEscape f rest
    | c :: rest => some (.literal c, rest)
  match read with
  | some (.literal c, rest) => if f.wide || c.toNat < 0x80 then some (.literal c, rest) else none
  | some (.named, rest) => some (.named, rest)
  | _ => none

/-- The sign that follows a hyphen.  Blanks are passed over where they do not count, and so is the sign of a comment
but not what the comment holds. -/
def signAhead (f : Flags) (t : Text) : Option Char :=
  if !f.spaced then t.head?
  else match t.dropWhile isBlank with
    | '#' :: rest => (rest.dropWhile isBlank).head?
    | rest => rest.head?

/-- A member, or a range of characters in ascending order.  A hyphen makes no range before a closing bracket or a
second hyphen. -/
def readMembers (f : Flags) (t : Text) : Option Text :=
  match readMember f t with
  | none => none
  | some (first, rest) =>
    match f.skip rest with
    | '-' :: more =>
      if signAhead f more == some ']' || signAhead f more == some '-' then some ('-' :: more)
      else match first, readMember f (f.skip more) with
        | .literal low, some (.literal high, rest) => if low ≤ high then some rest else none
        | _, _ => none
    | rest => some rest

def readBracket (f : Flags) : Nat → Bracket → List Bracket → Text → Option (Nat × Text)
  | 0, _, _, _ => none
  | fuel + 1, b, outer, t =>
    match f.skip t with
    | [] => none
    | c :: cs =>
      if b.fresh && c == '-' then readBracket f fuel (b.add ⟨0, false⟩) outer cs
      else if b.fresh && b.union.isEmpty && c == ']' then
        readBracket f fuel ({ b with fresh := false }.add ⟨0, false⟩) outer cs
      else
        let b := { b with fresh := false }
        if c == '[' then
          match asciiClass? cs with
          | some (negated, rest) => readBracket f fuel (b.add ⟨0, negated⟩) outer rest
          | none =>
            let (inner, rest) := Bracket.start f cs
            readBracket f fuel inner (b :: outer) rest
        else if c == ']' then
          match b.close f, outer with
          | none, _ => none
          | some e, [] => some (e.depth, cs)
          | some e, parent :: outer => readBracket f fuel (parent.add e) outer cs
        else match SetOperation.ofSign? c, cs.head? == some c with
          | some o, true => readBracket f fuel (b.operate o) outer cs.tail
          | _, _ =>
            match readMembers f (c :: cs) with
            | some rest => readBracket f fuel (b.add ⟨0, false⟩) outer rest
            | none => none

end Slipway.Log.Pattern
