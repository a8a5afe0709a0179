import Slipway.Text.Basic
set_option autoImplicit false

/-!
Calendar dates of the proleptic Gregorian calendar and their stamp, year, month and day without separators.
Years 0 to 9999 have four digits; any other year carries its sign and at least four digits.
-/

namespace Slipway

def isLeapYear (y : Int) : Bool := y % 4 == 0 && (y % 100 != 0 || y % 400 == 0)

def daysInMonth (y : Int) (m : Nat) : Nat :=
  if m = 2 then if isLeapYear y then 29 else 28
  else if m = 4 || m = 6 || m = 9 || m = 11 then 30 else 31

structure Date where
  year : Int
  month : Nat
  day : Nat
  year_ge : -262143 ≤ year
  year_le : year ≤ 262142
  month_pos : 1 ≤ month
  month_le : month ≤ 12
  day_pos : 1 ≤ day
  day_le : day ≤ daysInMonth year month
deriving DecidableEq

namespace Date

def ofYmd? (y : Int) (m d : Nat) : Option Date :=
  if h : -262143 ≤ y ∧ y ≤ 262142 ∧ 1 ≤ m ∧ m ≤ 12 ∧ 1 ≤ d ∧ d ≤ daysInMonth y m then
    some ⟨y, m, d, h.1, h.2.1, h.2.2.1, h.2.2.2.1, h.2.2.2.2.1, h.2.2.2.2.2⟩
  else none

def ofText? (t : Text) : Option Date :=
  match (splitWhere (· == '-') t).map natOfText? with
  | [some y, some m, some d] => ofYmd? y m d
  | _ => none

def yearText (y : Int) : Text :=
  if 0 ≤ y ∧ y ≤ 9999 then paddedNat 4 y.toNat
  else (if y < 0 then '-' else '+') :: paddedNat 4 y.natAbs

def stamp (d : Date) : Text := yearText d.year ++ paddedNat 2 d.month ++ paddedNat 2 d.day

example : (ofText? "2024-02-29".toList).map stamp = some "20240229".toList := by decide +kernel
example : ofText? "2023-02-29".toList = none := by decide +kernel

end Date

end Slipway
