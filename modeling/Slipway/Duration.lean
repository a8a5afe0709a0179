import Slipway.Binary64
import Slipway.Text.Basic
set_option autoImplicit false

namespace Slipway

structure Duration where
  secs : Nat
  nanos : Nat
deriving DecidableEq, Repr

namespace Duration

def zero : Duration := ⟨0, 0⟩

def seconds (d : Duration) : Binary64 :=
  (Binary64.ofNat d.secs).add ((Binary64.ofNat d.nanos).div (Binary64.ofNat 1000000000))

inductive Scale
  | seconds
  | minutes
deriving DecidableEq, Repr

/-- The unit, and the figure in tenths of it. -/
def figure (d : Duration) : Scale × Nat :=
  let s := d.seconds
  if (Binary64.ofNat 60).le s then
    let m := s.div (Binary64.ofNat 60)
    (.minutes, roundHalfEven (10 * m.num) m.den)
  else (.seconds, roundHalfEven (10 * s.num) s.den)

def Scale.letter : Scale → Char
  | .seconds => 's'
  | .minutes => 'm'

def text (d : Duration) : Text :=
  let (scale, tenths) := d.figure
  natText (tenths / 10) ++ '.' :: natText (tenths % 10) ++ [scale.letter]

example : text ⟨1, 500000000⟩ = "1.5s".toList := by decide +kernel
example : text ⟨90, 0⟩ = "1.5m".toList := by decide +kernel
example : text ⟨0, 250000000⟩ = "0.2s".toList := by decide +kernel

end Duration

end Slipway
