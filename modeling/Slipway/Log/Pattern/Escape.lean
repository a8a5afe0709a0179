import Slipway.Text.Alphanumeric
set_option autoImplicit false

namespace Slipway.Log.Pattern

structure Flags where
  spaced : Bool
  wide : Bool

/-- What is left behind blanks and comments; the flag tells whether a comment is under way. -/
def skipFrom : Bool → Text → Text
  | _, [] => []
  | true, c :: cs => skipFrom (c != '\n') cs
  | false, c :: cs =>
    if c == '#' then skipFrom true cs else if isBlank c then skipFrom false cs else c :: cs

def Flags.skip (f : Flags) (t : Text) : Text := if f.spaced then skipFrom false t else t

inductive Atom
  | literal (c : Char)
  | named
  | assertion

def hexDigit? (c : Char) : Option Nat :=
  if c.isDigit then some (c.toNat - 48)
  else if 'a' ≤ c.toLower && c.toLower ≤ 'f' then some (c.toLower.toNat - 87)
  else none

def readHex (f : Flags) : Nat → Nat → Text → Option (Nat × Text)
  | 0, value, t => some (value, t)
  | _ + 1, _, [] => none
  | n + 1, value, c :: cs =>
    match hexDigit? c with
    | some d => readHex f n (value * 16 + d) (f.skip cs)
    | none => none

/-- A character by its number.  Two digits stand for a byte where bytes are matched. -/
def byNumber (f : Flags) (digits : Nat) (t : Text) : Option (Atom × Text) :=
  match readHex f digits 0 (f.skip t) with
  | some (n, rest) =>
    if !f.wide && digits == 2 && 0x80 ≤ n then none
    else if n.isValidChar then some (.literal (Char.ofNat n), rest)
    else none
  | none => none

def isCategory (c : Char) : Bool := "CLMNPSZ".toList.elem c.toUpper

def byCategory (f : Flags) (t : Text) : Option (Atom × Text) :=
  match f.skip t with
  | c :: cs => if f.wide && isCategory c then some (.named, f.skip cs) else none
  | [] => none

def lettered? (c : Char) : Option Char :=
  [('a', '\x07'), ('f', '\x0c'), ('t', '\t'), ('n', '\n'), ('r', '\r'), ('v', '\x0b')].lookup c

/-- What stands behind a backslash.  A negated class has characters past ASCII and so is not for bytes; the ends of
words are known for ASCII only. -/
def readEscape (f : Flags) : Text → Option (Atom × Text)
  | [] => none
  | c :: cs =>
    if c == 'x' then byNumber f 2 cs
    else if c == 'u' then byNumber f 4 cs
    else if c == 'U' then byNumber f 8 cs
    else if c == 'p' || c == 'P' then byCategory f cs
    else if "dsw".toList.elem c then some (.named, cs)
    else if "DSW".toList.elem c then if f.wide then some (.named, cs) else none
    else if c == 'A' || c == 'z' then some (.assertion, cs)
    else if "bB<>".toList.elem c then if f.wide then none else some (.assertion, cs)
    else match lettered? c with
      | some d => some (.literal d, cs)
      | none => if c.toNat < 0x80 && !c.isAlphanum then some (.literal c, cs) else none

end Slipway.Log.Pattern
