import Slipway.Binary64
import Slipway.Text.Basic
set_option autoImplicit false

/-!
Which known word a mistyped one probably stands for: the word with the highest Jaro similarity, provided it is
above seven tenths.  Two letters match when they are equal and not too far apart; the similarity averages the
share of matching letters in either word and the share of matches that keep their order.
-/

namespace Slipway.CommandLine

def matchWindow (a b : Nat) : Nat := max a b / 2 - 1

/-- The first unused letter equal to `c` at the positions `low` to `high`; the flags tell which are used. -/
def takeMatch (c : Char) (low high : Nat) : Nat → List (Char × Bool) → Option (List (Char × Bool))
  | _, [] => none
  | i, (d, used) :: rest =>
    if low ≤ i && i ≤ high && !used && c == d then some ((d, true) :: rest)
    else (takeMatch c low high (i + 1) rest).map ((d, used) :: ·)

/-- The letters of `a` that find a partner in `b`, in order, and `b` with the partners marked. -/
def matchLetters (window : Nat) : Nat → Text → List (Char × Bool) → Text × List (Char × Bool)
  | _, [], b => ([], b)
  | i, c :: cs, b =>
    match takeMatch c (i - window) (i + window) 0 b with
    | some b' => let (found, b'') := matchLetters window (i + 1) cs b'; (c :: found, b'')
    | none => matchLetters window (i + 1) cs b

def similarity (a b : Text) : Binary64 :=
  if a.isEmpty && b.isEmpty then .ofNat 1
  else
    let (found, marked) := matchLetters (matchWindow a.length b.length) 0 a (b.map fun c => (c, false))
    let partners := (marked.filter (·.2)).map (·.1)
    let hits := found.length
    if hits = 0 then .ofNat 0
    else
      let moved := ((found.zip partners).filter fun p => p.1 != p.2).length / 2
      let share (n d : Nat) := (Binary64.ofNat n).div (Binary64.ofNat d)
      (((share hits a.length).add (share hits b.length)).add (share (hits - moved) hits)).div (.ofNat 3)

/-- The candidate most like `word`, the later of equals; `none` when none is similar enough. -/
def mostSimilar? {α : Type} (word : Text) (text : α → Text) (candidates : List α) : Option α :=
  let scored := candidates.map fun c => (similarity word (text c), c)
  let close := scored.filter fun p => (Binary64.ofQuotient 7 10).lt p.1
  (close.foldl (fun best p =>
    match best with
    | some b => if b.1.le p.1 then some p else some b
    | none => some p) none).map (·.2)

example : mostSimilar? "Relase".toList id ["Debug".toList, "Release".toList] = some "Release".toList := by
  decide +kernel

end Slipway.CommandLine
