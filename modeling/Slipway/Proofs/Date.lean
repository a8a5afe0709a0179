import Slipway.Date
import Slipway.Proofs.Text.Digits
set_option autoImplicit false

namespace Slipway.Date

variable {d e : Date}

instance : LT Date where
  lt d e := d.year < e.year ∨ d.year = e.year ∧ (d.month < e.month ∨ d.month = e.month ∧ d.day < e.day)

theorem lt_iff : d < e ↔ d.year < e.year ∨ d.year = e.year ∧ (d.month < e.month ∨ d.month = e.month ∧ d.day < e.day) :=
  Iff.rfl

def HasPlainYear (d : Date) : Prop := 0 ≤ d.year ∧ d.year ≤ 9999

instance (d : Date) : Decidable d.HasPlainYear := inferInstanceAs (Decidable (_ ∧ _))

section Reading

def readYear? : Text → Option Int
  | '-' :: t => (natOfText? t).map fun n => -(n : Int)
  | '+' :: t => (natOfText? t).map Int.ofNat
  | t => (natOfText? t).map Int.ofNat

/-- Reads a stamp: its last two characters are the day, the two before them the month, and what is left the year. -/
def ofStamp? (t : Text) : Option Date :=
  let front := t.length - 4
  match readYear? (t.take front), natOfText? ((t.drop front).take 2), natOfText? (t.drop (front + 2)) with
  | some y, some m, some d => ofYmd? y m d
  | _, _, _ => none

theorem ofYmd?_self (d : Date) : ofYmd? d.year d.month d.day = some d := by
  simp [ofYmd?, d.year_ge, d.year_le, d.month_pos, d.month_le, d.day_pos, d.day_le]

theorem readYear?_of_isDigits {t : Text} (h : IsDigits t) : readYear? t = (natOfText? t).map Int.ofNat := by
  unfold readYear?
  split
  · exact absurd (h '-' (by simp)) (by decide)
  · exact absurd (h '+' (by simp)) (by decide)
  · rfl

theorem readYear?_yearText (y : Int) : readYear? (yearText y) = some y := by
  unfold yearText
  split
  next h =>
    rw [readYear?_of_isDigits (isDigits_paddedNat _ _), natOfText?_paddedNat]
    exact congrArg some (Int.toNat_of_nonneg h.1)
  · split
    next h =>
      have hy : -(y.natAbs : Int) = y := by omega
      simp only [readYear?, natOfText?_paddedNat]
      exact congrArg some hy
    next h =>
      have hy : (y.natAbs : Int) = y := by omega
      simp only [readYear?, natOfText?_paddedNat]
      exact congrArg some hy

theorem month_lt (d : Date) : d.month < 100 := Nat.lt_of_le_of_lt d.month_le (by decide)

theorem day_lt (d : Date) : d.day < 100 := by
  have hdays : daysInMonth d.year d.month ≤ 31 := by
    unfold daysInMonth
    split
    · split <;> decide
    · split <;> decide
  exact Nat.lt_of_le_of_lt d.day_le (by omega)

theorem length_month (d : Date) : (paddedNat 2 d.month).length = 2 := length_paddedNat (by decide) d.month_lt

theorem length_day (d : Date) : (paddedNat 2 d.day).length = 2 := length_paddedNat (by decide) d.day_lt

theorem ofStamp?_stamp (d : Date) : ofStamp? d.stamp = some d := by
  have hfront : d.stamp.length - 4 = (yearText d.year).length := by
    simp only [stamp, List.length_append, d.length_month, d.length_day]
    omega
  have hyear : d.stamp.take (yearText d.year).length = yearText d.year := by
    rw [stamp, List.append_assoc, List.take_left]
  have hrest : d.stamp.drop (yearText d.year).length = paddedNat 2 d.month ++ paddedNat 2 d.day := by
    rw [stamp, List.append_assoc, List.drop_left]
  have hmonth : (paddedNat 2 d.month ++ paddedNat 2 d.day).take 2 = paddedNat 2 d.month := List.take_left' d.length_month
  have hday : d.stamp.drop ((yearText d.year).length + 2) = paddedNat 2 d.day := by
    rw [← List.drop_drop, hrest, List.drop_left' d.length_month]
  simp only [ofStamp?, hfront, hyear, hrest, hmonth, hday, readYear?_yearText, natOfText?_paddedNat, ofYmd?_self]

theorem stamp_injective (h : d.stamp = e.stamp) : d = e := by
  have hread := congrArg ofStamp? h
  rw [ofStamp?_stamp, ofStamp?_stamp] at hread
  exact Option.some.inj hread

end Reading

section Characters

theorem mem_yearText {y : Int} {c : Char} (h : c ∈ yearText y) : c.isDigit = true ∨ c = '-' ∨ c = '+' := by
  unfold yearText at h
  split at h
  · exact .inl (isDigits_paddedNat _ _ c h)
  · rcases List.mem_cons.1 h with rfl | h
    · split <;> simp
    · exact .inl (isDigits_paddedNat _ _ c h)

theorem mem_stamp {c : Char} (h : c ∈ d.stamp) : c.isDigit = true ∨ c = '-' ∨ c = '+' := by
  simp only [stamp, List.mem_append] at h
  obtain (hyear | hmonth) | hday := h
  · exact mem_yearText hyear
  · exact .inl (isDigits_paddedNat _ _ c hmonth)
  · exact .inl (isDigits_paddedNat _ _ c hday)

end Characters

namespace HasPlainYear

variable (hd : d.HasPlainYear) (he : e.HasPlainYear)
include hd

theorem stamp_eq : d.stamp = paddedNat 4 d.year.toNat ++ paddedNat 2 d.month ++ paddedNat 2 d.day := by
  rw [stamp, yearText, if_pos ⟨hd.1, hd.2⟩]

theorem isDigits_stamp : IsDigits d.stamp := by
  simp only [hd.stamp_eq, isDigits_append, isDigits_paddedNat, and_self]

theorem length_stamp : d.stamp.length = 8 := by
  have hyear : (paddedNat 4 d.year.toNat).length = 4 := length_paddedNat (by decide) (by have := hd.2; omega)
  simp only [hd.stamp_eq, List.length_append, hyear, d.length_month, d.length_day]

theorem digitsValue_stamp : digitsValue d.stamp = (d.year.toNat * 100 + d.month) * 100 + d.day := by
  have hbase : 10 ^ 2 = 100 := rfl
  simp only [hd.stamp_eq, digitsValue_append, digitsValue_paddedNat, d.length_month, d.length_day, hbase]

include he

theorem utf8_stamp_lt_iff (rest : Bytes) : utf8 d.stamp ++ rest < utf8 e.stamp ++ rest ↔ d < e := by
  have hyear := hd.1
  have hyear' := he.1
  have hmonth := d.month_lt
  have hmonth' := e.month_lt
  rw [utf8_lt_iff_of_isDigits hd.isDigits_stamp he.isDigits_stamp (hd.length_stamp.trans he.length_stamp.symm) rest,
    hd.digitsValue_stamp, he.digitsValue_stamp, mul_add_lt_iff d.day_lt e.day_lt, mul_add_lt_iff hmonth hmonth',
    lt_iff]
  omega

end HasPlainYear

end Slipway.Date
