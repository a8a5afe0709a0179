set_option autoImplicit false

/-!
Non-negative numbers in IEEE 754 double precision, as exact fractions.  A value is a fraction `num / den`
whose denominator is a power of two; each operation computes the exact result and rounds it once, to the
nearest number with 53 significant bits, ties to the even one.  The magnitudes here (seconds of a 64-bit count,
shares of a few letters) are far from overflow and from the subnormal range, so neither is modelled.
-/

namespace Slipway

structure Binary64 where
  num : Nat
  den : Nat
deriving DecidableEq, Repr

def roundHalfEven (n d : Nat) : Nat :=
  let q := n / d
  let r := n % d
  if 2 * r < d then q else if d < 2 * r then q + 1 else if q % 2 = 0 then q else q + 1

namespace Binary64

def reduce : Nat → Nat → Nat → Binary64
  | 0, n, d => ⟨n, d⟩
  | fuel + 1, n, d => if n % 2 = 0 && d % 2 = 0 then reduce fuel (n / 2) (d / 2) else ⟨n, d⟩

/-- The double nearest to `n / d`.  The difference of the two lengths leaves one of two exponents: with the
smaller one the scaled quotient has 53 or 54 bits, and 53 are wanted. -/
def ofQuotient (n d : Nat) : Binary64 :=
  if n = 0 then ⟨0, 1⟩
  else
    let e : Int := (n.log2 : Int) - d.log2 - 53
    let scaled (e : Int) : Nat × Nat := if e < 0 then (n <<< e.natAbs, d) else (n, d <<< e.natAbs)
    let fits (e : Int) : Bool := let (a, b) := scaled e; a < b <<< 53
    let e := if fits e then e else e + 1
    let (a, b) := scaled e
    let m := roundHalfEven a b
    if e < 0 then reduce e.natAbs m (1 <<< e.natAbs) else ⟨m <<< e.natAbs, 1⟩

def ofNat (n : Nat) : Binary64 := ofQuotient n 1

def add (x y : Binary64) : Binary64 := ofQuotient (x.num * y.den + y.num * x.den) (x.den * y.den)

def div (x y : Binary64) : Binary64 := ofQuotient (x.num * y.den) (x.den * y.num)

def lt (x y : Binary64) : Bool := x.num * y.den < y.num * x.den

def le (x y : Binary64) : Bool := x.num * y.den ≤ y.num * x.den

end Binary64

end Slipway
