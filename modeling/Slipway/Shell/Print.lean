import Slipway.Shell.Test
set_option autoImplicit false

namespace Slipway.Shell

def escapeByte? (e : UInt8) : Option UInt8 :=
  match Char.ofNat e.toNat with
  | '\\' => some 0x5C
  | 'a' => some 0x07
  | 'b' => some 0x08
  | 'f' => some 0x0C
  | 'n' => some 0x0A
  | 'r' => some 0x0D
  | 't' => some 0x09
  | 'v' => some 0x0B
  | _ => none

def isOctal (c : Char) : Bool := '0' ≤ c && c ≤ '7'

/-- The text `echo` prints for its operands: escapes are understood, and `\c` ends the output there and then.
The flag tells whether the output goes on. -/
def echoed : Nat → Bytes → Bytes × Bool
  | 0, _ => ([], true)
  | _ + 1, [] => ([], true)
  | fuel + 1, b :: rest =>
    let put (x : UInt8) (after : Bytes) : Bytes × Bool :=
      let (t, more) := echoed fuel after
      (x :: t, more)
    if b != 0x5C then put b rest
    else match rest with
      | [] => put b []
      | e :: after =>
        match escapeByte? e with
        | some x => put x after
        | none =>
          if e == 0x63 then ([], false)
          else if e == 0x30 then
            let digits := (after.take 3).takeWhile fun d => isOctal (Char.ofNat d.toNat)
            let n := digits.foldl (fun n d => n * 8 + (d.toNat - 48)) 0
            put (UInt8.ofNat n) (after.drop digits.length)
          else put b rest

def echoOutput (operands : List Bytes) : Bytes :=
  let (operands, newline) :=
    match operands with
    | a :: rest => if isWord "-n" a then (rest, false) else (operands, true)
    | [] => ([], true)
  let text := joinWith [0x20] operands
  let (t, more) := echoed text.length text
  if more && newline then t ++ [0x0A] else t

/-- One pass of `printf` through its format: what it prints and the operands it leaves.  Directives are `%s`, `%d` and
`%%`; there is nothing for any other. -/
def formatPass : Bytes → List Bytes → Option (Bytes × List Bytes)
  | [], operands => some ([], operands)
  | 0x25 :: 0x25 :: rest, operands => (formatPass rest operands).map fun (t, left) => (0x25 :: t, left)
  | 0x25 :: 0x73 :: rest, operands =>
    (formatPass rest operands.tail).map fun (t, left) => (operands.headD [] ++ t, left)
  | 0x25 :: 0x64 :: rest, operands =>
    (formatPass rest operands.tail).map fun (t, left) =>
      (utf8 (intText ((integer? (operands.headD [])).getD 0)) ++ t, left)
  | 0x25 :: _, _ => none
  | 0x5C :: e :: rest, operands =>
    match escapeByte? e with
    | some x => (formatPass rest operands).map fun (t, left) => (x :: t, left)
    | none => (formatPass rest operands).map fun (t, left) => (0x5C :: e :: t, left)
  | b :: rest, operands => (formatPass rest operands).map fun (t, left) => (b :: t, left)

def formatted (format : Bytes) : Nat → List Bytes → Option Bytes
  | 0, _ => some []
  | fuel + 1, operands =>
    (formatPass format operands).bind fun (t, left) =>
      if left.isEmpty || left.length == operands.length then some t
      else (formatted format fuel left).map (t ++ ·)

end Slipway.Shell
