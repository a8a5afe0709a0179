import Slipway.Text.Basic
set_option autoImplicit false

/-!
UTF-8 in both directions.  Reading never fails: it cuts the input into characters and into maximal
ill-formed stretches (a lead byte with the continuation bytes that still fit it, or one byte on its own).
`lossy` puts U+FFFD for each such stretch, `decode?` insists that there is none.
-/

namespace Slipway

def utf8 (t : Text) : Bytes := t.flatMap String.utf8EncodeChar

@[simp] theorem utf8_nil : utf8 [] = [] := rfl

@[simp] theorem utf8_cons (c : Char) (t : Text) : utf8 (c :: t) = String.utf8EncodeChar c ++ utf8 t := rfl

@[simp] theorem utf8_append (s t : Text) : utf8 (s ++ t) = utf8 s ++ utf8 t := by
  simp [utf8]

inductive Piece
  | char (c : Char)
  | stray (bytes : Bytes)
deriving DecidableEq, Repr

/-- A sequence under way: its bytes so far (latest first), the bits they carry, how many bytes are still
missing, and the bounds for the next one. -/
structure Underway where
  seen : Bytes
  bits : Nat
  missing : Nat
  low : Nat
  high : Nat

inductive Lead
  | piece (p : Piece)
  | underway (u : Underway)

/-- What a byte begins.  The narrower bounds after E0, ED, F0 and F4 shut out overlong forms, surrogates and
values past U+10FFFF. -/
def Lead.ofByte (b : UInt8) : Lead :=
  let n := b.toNat
  if n < 0x80 then .piece (.char (Char.ofNat n))
  else if n < 0xC2 then .piece (.stray [b])
  else if n < 0xE0 then .underway ⟨[b], n - 0xC0, 1, 0x80, 0xBF⟩
  else if n < 0xF0 then
    .underway ⟨[b], n - 0xE0, 2, if n = 0xE0 then 0xA0 else 0x80, if n = 0xED then 0x9F else 0xBF⟩
  else if n < 0xF5 then
    .underway ⟨[b], n - 0xF0, 3, if n = 0xF0 then 0x90 else 0x80, if n = 0xF4 then 0x8F else 0xBF⟩
  else .piece (.stray [b])

/-- The pieces of the input, given the sequence that its first bytes may still belong to. -/
def piecesFrom : Option Underway → Bytes → List Piece
  | none, [] => []
  | some u, [] => [.stray u.seen.reverse]
  | none, b :: bs =>
    match Lead.ofByte b with
    | .piece p => p :: piecesFrom none bs
    | .underway u => piecesFrom (some u) bs
  | some u, b :: bs =>
    if u.low ≤ b.toNat ∧ b.toNat ≤ u.high then
      let bits := u.bits * 64 + (b.toNat - 0x80)
      if u.missing ≤ 1 then .char (Char.ofNat bits) :: piecesFrom none bs
      else piecesFrom (some ⟨b :: u.seen, bits, u.missing - 1, 0x80, 0xBF⟩) bs
    else
      .stray u.seen.reverse ::
        match Lead.ofByte b with
        | .piece p => p :: piecesFrom none bs
        | .underway v => piecesFrom (some v) bs

def pieces (bs : Bytes) : List Piece := piecesFrom none bs

def Piece.shown : Piece → Char
  | .char c => c
  | .stray _ => '\ufffd'

def Piece.char? : Piece → Option Char
  | .char c => some c
  | .stray _ => none

def lossy (bs : Bytes) : Text := (pieces bs).map Piece.shown

def decode? (bs : Bytes) : Option Text := (pieces bs).mapM Piece.char?

example : lossy [0x66, 0xff, 0x6d] = ['f', '\ufffd', 'm'] := by decide
example : lossy [0xe2, 0x82, 0x41] = ['\ufffd', 'A'] := by decide
example : decode? (utf8 ['é', '日', '😀']) = some ['é', '日', '😀'] := by decide

end Slipway
