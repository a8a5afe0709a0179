import Mathlib.Algebra.Order.Field.Power
import Mathlib.Data.Rat.Cast.Order
import Mathlib.Tactic.FieldSimp
import Mathlib.Tactic.Linarith
import Mathlib.Tactic.NormNum
import Mathlib.Tactic.Positivity
import Mathlib.Tactic.Ring
import Slipway.Binary64
set_option autoImplicit false

/-!
What the operations on doubles compute.  A quotient of whole numbers becomes the double nearest to it, the even one of two
(`Binary64.roundsTo_ofQuotient`), so sums and quotients of doubles are the exact ones rounded once; and rounding goes
past no double, which is what bounds on results rest on (`RoundsTo.le_of_le`, `RoundsTo.le_of_ge`).
-/

namespace Slipway

section RoundHalfEven

variable {n d : Nat}

theorem roundHalfEven_bounds (hd : 0 < d) :
    2 * n ≤ 2 * (d * roundHalfEven n d) + d ∧ 2 * (d * roundHalfEven n d) ≤ 2 * n + d ∧
      (2 * n = 2 * (d * roundHalfEven n d) + d ∨ 2 * (d * roundHalfEven n d) = 2 * n + d → Even (roundHalfEven n d)) := by
  have hn := Nat.div_add_mod n d
  have hr := Nat.mod_lt n hd
  have hsucc : d * (n / d + 1) = d * (n / d) + d := Nat.mul_succ d (n / d)
  simp only [roundHalfEven, Nat.even_iff]
  split
  · omega
  · split
    · rw [hsucc]
      omega
    · split
      · omega
      · rw [hsucc]
        omega

theorem abs_roundHalfEven_sub_le (n : Nat) (hd : 0 < d) : |(roundHalfEven n d : ℚ) - n / d| ≤ 1 / 2 := by
  obtain ⟨hlow, hhigh, -⟩ := roundHalfEven_bounds (n := n) hd
  have hd' : (0 : ℚ) < d := Nat.cast_pos.2 hd
  have hq : (d : ℚ) * (n / d) = n := mul_div_cancel₀ _ hd'.ne'
  have hlow' : (2 * n : ℚ) ≤ 2 * (d * roundHalfEven n d) + d := by exact_mod_cast hlow
  have hhigh' : (2 * (d * roundHalfEven n d) : ℚ) ≤ 2 * n + d := by exact_mod_cast hhigh
  rw [abs_le]
  constructor
  · refine le_of_mul_le_mul_left ?_ hd'
    rw [mul_sub, hq]
    linarith
  · refine le_of_mul_le_mul_left ?_ hd'
    rw [mul_sub, hq]
    linarith

theorem even_roundHalfEven (hd : 0 < d) (h : |(roundHalfEven n d : ℚ) - n / d| = 1 / 2) : Even (roundHalfEven n d) := by
  have hd' : (0 : ℚ) < d := Nat.cast_pos.2 hd
  have hq : (d : ℚ) * (n / d) = n := mul_div_cancel₀ _ hd'.ne'
  refine (roundHalfEven_bounds hd).2.2 ?_
  rcases (abs_eq (by norm_num)).1 h with h | h
  · right
    have hdiff : (d : ℚ) * (roundHalfEven n d - n / d) = d * (1 / 2) := by rw [h]
    rw [mul_sub, hq] at hdiff
    exact_mod_cast (by linarith : (2 * (d * roundHalfEven n d) : ℚ) = 2 * n + d)
  · left
    have hdiff : (d : ℚ) * (roundHalfEven n d - n / d) = d * -(1 / 2) := by rw [h]
    rw [mul_sub, hq] at hdiff
    exact_mod_cast (by linarith : (2 * n : ℚ) = 2 * (d * roundHalfEven n d) + d)

end RoundHalfEven

namespace Binary64

def value (x : Binary64) : ℚ := x.num / x.den

/-- A number of at most 53 significant bits.  The exponent has no bounds here. -/
def IsDouble (x : ℚ) : Prop := ∃ (m : ℕ) (e : ℤ), m < 2 ^ 53 ∧ x = m * 2 ^ e

/-- With all of its 53 bits written out, the last one is zero. -/
def IsEvenDouble (x : ℚ) : Prop := ∃ (m : ℕ) (e : ℤ), Even m ∧ 2 ^ 52 ≤ m ∧ m < 2 ^ 53 ∧ x = m * 2 ^ e

/-- No double is nearer to `q` than `r` is, and `r` is the even one where another is as near. -/
structure RoundsTo (q r : ℚ) : Prop where
  isDouble : IsDouble r
  nearest : ∀ x, IsDouble x → |r - q| ≤ |x - q|
  tiesToEven : ∀ x, IsDouble x → x ≠ r → |x - q| = |r - q| → IsEvenDouble r

theorem isDouble_natCast {m : ℕ} (h : m < 2 ^ 53) : IsDouble m := ⟨m, 0, h, by simp⟩

theorem isDouble_div_two_pow {m : ℕ} (k : ℕ) (h : m < 2 ^ 53) : IsDouble (m / 2 ^ k) :=
  ⟨m, -k, h, by rw [zpow_neg, zpow_natCast, div_eq_mul_inv]⟩

namespace RoundsTo

variable {q r x : ℚ}

theorem le_of_le (h : RoundsTo q r) (hx : IsDouble x) (hq : x ≤ q) : x ≤ r := by
  have hnear := h.nearest x hx
  rw [abs_sub_comm x q, abs_of_nonneg (sub_nonneg.2 hq), abs_le] at hnear
  linarith

theorem le_of_ge (h : RoundsTo q r) (hx : IsDouble x) (hq : q ≤ x) : r ≤ x := by
  have hnear := h.nearest x hx
  rw [abs_of_nonneg (sub_nonneg.2 hq), abs_le] at hnear
  linarith

theorem eq_of_isDouble (h : RoundsTo q r) (hq : IsDouble q) : r = q :=
  le_antisymm (h.le_of_ge hq le_rfl) (h.le_of_le hq le_rfl)

end RoundsTo

theorem roundsTo_zero : RoundsTo 0 0 where
  isDouble := ⟨0, 0, by norm_num, by simp⟩
  nearest x _ := by simp
  tiesToEven x _ hx h := absurd (by simpa using h) hx

section Scaled

variable {z : ℚ} {m : ℕ} {e : ℤ}

theorem carry (e : ℤ) : ((2 ^ 53 : ℕ) : ℚ) * 2 ^ e = (2 ^ 52 : ℕ) * 2 ^ (e + 1) := by
  rw [zpow_add_one₀ (by norm_num)]
  push_cast
  ring

theorem isDouble_of_le (h : m ≤ 2 ^ 53) : IsDouble (m * 2 ^ e) := by
  rcases h.lt_or_eq with hlt | rfl
  · exact ⟨m, e, hlt, rfl⟩
  · exact ⟨2 ^ 52, e + 1, by norm_num, carry e⟩

theorem isEvenDouble_of_le (hm : Even m) (hlow : 2 ^ 52 ≤ m) (h : m ≤ 2 ^ 53) : IsEvenDouble (m * 2 ^ e) := by
  rcases h.lt_or_eq with hlt | rfl
  · exact ⟨m, e, hm, hlow, hlt, rfl⟩
  · exact ⟨2 ^ 52, e + 1, by decide, le_rfl, by norm_num, carry e⟩

/-- In steps of `2 ^ e` a double is a whole number, or so small that it can have bits behind these. -/
theorem IsDouble.whole_or_lt {x : ℚ} (hx : IsDouble x) (e : ℤ) : (∃ w : ℕ, x = w * 2 ^ e) ∨ x < 2 ^ 52 * 2 ^ e := by
  obtain ⟨k, f, hk, rfl⟩ := hx
  rcases le_or_gt e f with hef | hfe
  · left
    obtain ⟨j, rfl⟩ := Int.exists_add_of_le hef
    refine ⟨k * 2 ^ j, ?_⟩
    rw [zpow_add₀ (by norm_num), zpow_natCast]
    push_cast
    ring
  · right
    have hk' : (k : ℚ) < 2 ^ 53 := by exact_mod_cast hk
    have hpow : (2 : ℚ) ^ (f + 1) ≤ 2 ^ e := zpow_le_zpow_right₀ (by norm_num) hfe
    calc (k : ℚ) * 2 ^ f < 2 ^ 53 * 2 ^ f := mul_lt_mul_of_pos_right hk' (zpow_pos (by norm_num) f)
      _ = 2 ^ 52 * 2 ^ (f + 1) := by rw [zpow_add_one₀ (by norm_num)]; ring
      _ ≤ 2 ^ 52 * 2 ^ e := mul_le_mul_of_nonneg_left hpow (by norm_num)

theorem abs_steps_sub_steps (w z : ℚ) (e : ℤ) : |w * 2 ^ e - z * 2 ^ e| = |w - z| * 2 ^ e := by
  have hpos : (0 : ℚ) < 2 ^ e := zpow_pos (by norm_num) e
  rw [← sub_mul, abs_mul, abs_of_pos hpos]

section

variable (hm : |(m : ℚ) - z| ≤ 1 / 2)

include hm

theorem half_le_abs_sub {w : ℕ} (hw : w ≠ m) : 1 / 2 ≤ |(w : ℚ) - z| := by
  have hone : (1 : ℚ) ≤ |(w : ℚ) - m| := by
    have habs : (1 : ℤ) ≤ |(w : ℤ) - m| := Int.one_le_abs (sub_ne_zero.2 (by exact_mod_cast hw))
    exact_mod_cast habs
  have htri := abs_sub_le (w : ℚ) z m
  rw [abs_sub_comm z] at htri
  linarith

theorem abs_sub_le_of_whole (w : ℕ) : |(m : ℚ) - z| ≤ |(w : ℚ) - z| := by
  by_cases hw : w = m
  · rw [hw]
  · exact hm.trans (half_le_abs_sub hm hw)

theorem bounds_of_abs_sub_le (hlow : 2 ^ 52 ≤ z) (hhigh : z < 2 ^ 53) : 2 ^ 52 ≤ m ∧ m ≤ 2 ^ 53 := by
  rw [abs_le] at hm
  have hbelow : ((2 ^ 52 : ℕ) : ℚ) < m + 1 := by
    push_cast
    linarith
  have habove : (m : ℚ) < (2 ^ 53 : ℕ) + 1 := by
    push_cast
    linarith
  exact ⟨Nat.lt_succ_iff.1 (by exact_mod_cast hbelow), Nat.lt_succ_iff.1 (by exact_mod_cast habove)⟩

theorem lt_abs_sub_of_lt (hlow : 2 ^ 52 ≤ z) {x : ℚ} (hx : x < 2 ^ 52 * 2 ^ e) :
    |(m : ℚ) * 2 ^ e - z * 2 ^ e| < |x - z * 2 ^ e| := by
  have hpos : (0 : ℚ) < 2 ^ e := zpow_pos (by norm_num) e
  have hleast : |(m : ℚ) - z| ≤ z - 2 ^ 52 := by
    have hwhole := abs_sub_le_of_whole hm (2 ^ 52)
    rwa [Nat.cast_pow, Nat.cast_ofNat, abs_sub_comm (2 ^ 52), abs_of_nonneg (sub_nonneg.2 hlow)] at hwhole
  have hmul := mul_le_mul_of_nonneg_right hleast hpos.le
  rw [abs_steps_sub_steps, abs_sub_comm x, lt_abs]
  left
  linarith

end

/-- Of a number scaled to 53 bits before the point the nearest whole number makes the nearest double. -/
theorem roundsTo_of_scaled (hlow : 2 ^ 52 ≤ z) (hhigh : z < 2 ^ 53) (hm : |(m : ℚ) - z| ≤ 1 / 2)
    (heven : |(m : ℚ) - z| = 1 / 2 → Even m) : RoundsTo (z * 2 ^ e) (m * 2 ^ e) := by
  have hpos : (0 : ℚ) < 2 ^ e := zpow_pos (by norm_num) e
  obtain ⟨hmlow, hmhigh⟩ := bounds_of_abs_sub_le hm hlow hhigh
  refine ⟨isDouble_of_le hmhigh, fun x hx => ?_, fun x hx hne h => ?_⟩
  · obtain ⟨w, rfl⟩ | hlt := hx.whole_or_lt e
    · rw [abs_steps_sub_steps, abs_steps_sub_steps]
      exact mul_le_mul_of_nonneg_right (abs_sub_le_of_whole hm w) hpos.le
    · exact (lt_abs_sub_of_lt hm hlow hlt).le
  · obtain ⟨w, rfl⟩ | hlt := hx.whole_or_lt e
    · have hw : w ≠ m := fun hw => hne (by rw [hw])
      rw [abs_steps_sub_steps, abs_steps_sub_steps] at h
      have hhalf := half_le_abs_sub hm hw
      rw [mul_right_cancel₀ hpos.ne' h] at hhalf
      exact isEvenDouble_of_le (heven (le_antisymm hm hhalf)) hmlow hmhigh
    · exact absurd h (lt_abs_sub_of_lt hm hlow hlt).ne'

end Scaled

section Quotient

variable {n d : ℕ}

theorem value_reduce (fuel n d : ℕ) : (reduce fuel n d).value = n / d := by
  induction fuel generalizing n d with
  | zero => rfl
  | succ fuel ih =>
    unfold reduce
    split
    next h =>
      simp only [Bool.and_eq_true, decide_eq_true_eq] at h
      have hn : (n : ℚ) = 2 * (n / 2 : ℕ) := by exact_mod_cast (by omega : n = 2 * (n / 2))
      have hd : (d : ℚ) = 2 * (d / 2 : ℕ) := by exact_mod_cast (by omega : d = 2 * (d / 2))
      rw [ih, hn, hd, mul_div_mul_left _ _ (by norm_num)]
    next => rfl

theorem den_reduce_pos (fuel n : ℕ) (hd : 0 < d) : 0 < (reduce fuel n d).den := by
  induction fuel generalizing n d with
  | zero => exact hd
  | succ fuel ih =>
    unfold reduce
    split
    next h =>
      simp only [Bool.and_eq_true, decide_eq_true_eq] at h
      exact ih _ (by omega)
    next => exact hd

def scaled (n d : ℕ) (e : ℤ) : ℕ × ℕ := if e < 0 then (n <<< e.natAbs, d) else (n, d <<< e.natAbs)

def fits (n d : ℕ) (e : ℤ) : Bool := (scaled n d e).1 < (scaled n d e).2 <<< 53

def exponent (n d : ℕ) : ℤ :=
  let e : ℤ := (n.log2 : ℤ) - d.log2 - 53
  if fits n d e then e else e + 1

def ofScaled (m : ℕ) (e : ℤ) : Binary64 := if e < 0 then reduce e.natAbs m (1 <<< e.natAbs) else ⟨m <<< e.natAbs, 1⟩

theorem ofQuotient_eq (hn : n ≠ 0) (d : ℕ) :
    ofQuotient n d =
      ofScaled (roundHalfEven (scaled n d (exponent n d)).1 (scaled n d (exponent n d)).2) (exponent n d) := by
  unfold ofQuotient
  rw [if_neg hn]
  simp only [exponent]
  -- With the logarithms in sight the comparison of both sides would compute them.
  generalize (n.log2 : ℤ) - d.log2 - 53 = e
  rfl

theorem value_ofScaled (m : ℕ) (e : ℤ) : (ofScaled m e).value = m * 2 ^ e := by
  rcases lt_or_ge e 0 with he | he
  · obtain ⟨k, rfl⟩ : ∃ k : ℕ, e = -k := ⟨e.natAbs, by omega⟩
    rw [ofScaled, if_pos he, value_reduce, Nat.one_shiftLeft, Int.natAbs_neg, Int.natAbs_natCast, zpow_neg, zpow_natCast,
      div_eq_mul_inv, Nat.cast_pow, Nat.cast_ofNat]
  · obtain ⟨k, rfl⟩ : ∃ k : ℕ, e = k := ⟨e.natAbs, by omega⟩
    rw [ofScaled, if_neg (not_lt.2 he), value, Nat.shiftLeft_eq, Int.natAbs_natCast, zpow_natCast]
    push_cast
    ring

theorem den_ofScaled_pos (m : ℕ) (e : ℤ) : 0 < (ofScaled m e).den := by
  unfold ofScaled
  split
  · exact den_reduce_pos _ _ (by simp [Nat.one_shiftLeft])
  · exact Nat.one_pos

theorem scaled_pos (n : ℕ) (hd : 0 < d) (e : ℤ) : 0 < (scaled n d e).2 := by
  unfold scaled
  split
  · exact hd
  · simpa [Nat.shiftLeft_eq] using hd

theorem scaled_div (n d : ℕ) (e : ℤ) : ((scaled n d e).1 : ℚ) / (scaled n d e).2 = n / d / 2 ^ e := by
  rcases lt_or_ge e 0 with he | he
  · obtain ⟨k, rfl⟩ : ∃ k : ℕ, e = -k := ⟨e.natAbs, by omega⟩
    rw [scaled, if_pos he, Nat.shiftLeft_eq, Int.natAbs_neg, Int.natAbs_natCast, zpow_neg, zpow_natCast]
    push_cast
    rw [div_inv_eq_mul]
    ring
  · obtain ⟨k, rfl⟩ : ∃ k : ℕ, e = k := ⟨e.natAbs, by omega⟩
    rw [scaled, if_neg (not_lt.2 he), Nat.shiftLeft_eq, Int.natAbs_natCast, zpow_natCast]
    push_cast
    rw [div_div]

theorem fits_iff (n : ℕ) (hd : 0 < d) (e : ℤ) : fits n d e = true ↔ (n : ℚ) / d / 2 ^ e < 2 ^ 53 := by
  have hpos : (0 : ℚ) < (scaled n d e).2 := Nat.cast_pos.2 (scaled_pos n hd e)
  rw [← scaled_div, div_lt_iff₀ hpos, fits, decide_eq_true_iff, Nat.shiftLeft_eq, mul_comm]
  norm_cast

theorem quotient_bounds (hn : n ≠ 0) (hd : d ≠ 0) :
    2 ^ ((n.log2 : ℤ) - d.log2 - 1) < (n : ℚ) / d ∧ (n : ℚ) / d < 2 ^ ((n.log2 : ℤ) - d.log2 + 1) := by
  have htwo : (2 : ℚ) ≠ 0 := by norm_num
  have hd' : (0 : ℚ) < d := Nat.cast_pos.2 (Nat.pos_of_ne_zero hd)
  have hnlow : (2 : ℚ) ^ (n.log2 : ℤ) ≤ n := by exact_mod_cast Nat.log2_self_le hn
  have hnhigh : (n : ℚ) < 2 ^ (n.log2 + 1 : ℤ) := by exact_mod_cast Nat.lt_log2_self (n := n)
  have hdlow : (2 : ℚ) ^ (d.log2 : ℤ) ≤ d := by exact_mod_cast Nat.log2_self_le hd
  have hdhigh : (d : ℚ) < 2 ^ (d.log2 + 1 : ℤ) := by exact_mod_cast Nat.lt_log2_self (n := d)
  constructor
  · rw [lt_div_iff₀ hd']
    calc (2 : ℚ) ^ ((n.log2 : ℤ) - d.log2 - 1) * d
        < 2 ^ ((n.log2 : ℤ) - d.log2 - 1) * 2 ^ (d.log2 + 1 : ℤ) :=
          mul_lt_mul_of_pos_left hdhigh (zpow_pos (by norm_num) _)
      _ = 2 ^ (n.log2 : ℤ) := by rw [← zpow_add₀ htwo]; congr 1; ring
      _ ≤ n := hnlow
  · rw [div_lt_iff₀ hd']
    calc (n : ℚ) < 2 ^ (n.log2 + 1 : ℤ) := hnhigh
      _ = 2 ^ ((n.log2 : ℤ) - d.log2 + 1) * 2 ^ (d.log2 : ℤ) := by rw [← zpow_add₀ htwo]; congr 1; ring
      _ ≤ 2 ^ ((n.log2 : ℤ) - d.log2 + 1) * d := mul_le_mul_of_nonneg_left hdlow (zpow_pos (by norm_num) _).le

theorem exponent_spec (hn : n ≠ 0) (hd : d ≠ 0) :
    2 ^ 52 ≤ (n : ℚ) / d / 2 ^ exponent n d ∧ (n : ℚ) / d / 2 ^ exponent n d < 2 ^ 53 := by
  obtain ⟨hlow, hhigh⟩ := quotient_bounds hn hd
  have hpos (e : ℤ) : (0 : ℚ) < 2 ^ e := zpow_pos (by norm_num) e
  have hsplit (a b : ℤ) : (2 : ℚ) ^ (a + b) = 2 ^ a * 2 ^ b := zpow_add₀ (by norm_num) a b
  unfold exponent
  dsimp only
  generalize he : (n.log2 : ℤ) - d.log2 - 53 = e
  rw [show (n.log2 : ℤ) - d.log2 - 1 = 52 + e by omega, hsplit] at hlow
  rw [show (n.log2 : ℤ) - d.log2 + 1 = 53 + (e + 1) by omega, hsplit] at hhigh
  split
  next h =>
    rw [le_div_iff₀ (hpos e)]
    exact ⟨hlow.le, (fits_iff n (Nat.pos_of_ne_zero hd) e).1 h⟩
  next h =>
    rw [fits_iff n (Nat.pos_of_ne_zero hd) e, not_lt, le_div_iff₀ (hpos e)] at h
    rw [le_div_iff₀ (hpos _), div_lt_iff₀ (hpos _)]
    refine ⟨?_, hhigh⟩
    rw [hsplit e 1]
    linarith

end Quotient

/-- A quotient of whole numbers is rounded once, and to the nearest double. -/
theorem roundsTo_ofQuotient (n : ℕ) {d : ℕ} (hd : 0 < d) : RoundsTo (n / d) (ofQuotient n d).value := by
  by_cases hn : n = 0
  · subst hn
    have hzero : (ofQuotient 0 d).value = 0 := by simp [ofQuotient, value]
    rw [hzero, Nat.cast_zero, zero_div]
    exact roundsTo_zero
  · obtain ⟨hlow, hhigh⟩ := exponent_spec hn hd.ne'
    have hsteps := scaled_pos n hd (exponent n d)
    have hpow : (2 : ℚ) ^ exponent n d ≠ 0 := (zpow_pos (by norm_num) _).ne'
    rw [ofQuotient_eq hn, value_ofScaled, ← div_mul_cancel₀ ((n : ℚ) / d) hpow]
    rw [← scaled_div] at hlow hhigh ⊢
    exact roundsTo_of_scaled hlow hhigh (abs_roundHalfEven_sub_le _ hsteps) (even_roundHalfEven hsteps)

theorem den_ofQuotient_pos (n d : ℕ) : 0 < (ofQuotient n d).den := by
  by_cases hn : n = 0
  · simp [ofQuotient, hn]
  · rw [ofQuotient_eq hn]
    exact den_ofScaled_pos _ _

section Operations

variable {x y : Binary64}

theorem num_ne_zero (h : x.value ≠ 0) : x.num ≠ 0 := fun hz => h (by simp [value, hz])

theorem den_ofNat_pos (n : ℕ) : 0 < (ofNat n).den := den_ofQuotient_pos n 1

theorem den_add_pos (x y : Binary64) : 0 < (x.add y).den := den_ofQuotient_pos _ _

theorem den_div_pos (x y : Binary64) : 0 < (x.div y).den := den_ofQuotient_pos _ _

theorem roundsTo_ofNat (n : ℕ) : RoundsTo n (ofNat n).value := by
  simpa [ofNat] using roundsTo_ofQuotient n Nat.one_pos

theorem value_ofNat {n : ℕ} (h : n < 2 ^ 53) : (ofNat n).value = n := (roundsTo_ofNat n).eq_of_isDouble (isDouble_natCast h)

theorem roundsTo_add (hx : 0 < x.den) (hy : 0 < y.den) : RoundsTo (x.value + y.value) (x.add y).value := by
  have hsum := roundsTo_ofQuotient (x.num * y.den + y.num * x.den) (Nat.mul_pos hx hy)
  have hx' : (x.den : ℚ) ≠ 0 := Nat.cast_ne_zero.2 hx.ne'
  have hy' : (y.den : ℚ) ≠ 0 := Nat.cast_ne_zero.2 hy.ne'
  have hvalue : x.value + y.value = ((x.num * y.den + y.num * x.den : ℕ) : ℚ) / (x.den * y.den : ℕ) := by
    rw [value, value, div_add_div _ _ hx' hy']
    push_cast
    ring
  rw [hvalue]
  exact hsum

theorem roundsTo_div (hx : 0 < x.den) (hy : y.num ≠ 0) : RoundsTo (x.value / y.value) (x.div y).value := by
  have hquotient := roundsTo_ofQuotient (x.num * y.den) (Nat.mul_pos hx (Nat.pos_of_ne_zero hy))
  have hvalue : x.value / y.value = ((x.num * y.den : ℕ) : ℚ) / (x.den * y.num : ℕ) := by
    rw [value, value, div_div_div_eq]
    push_cast
    ring
  rw [hvalue]
  exact hquotient

theorem le_iff (hx : 0 < x.den) (hy : 0 < y.den) : x.le y = true ↔ x.value ≤ y.value := by
  have hx' : (0 : ℚ) < x.den := Nat.cast_pos.2 hx
  have hy' : (0 : ℚ) < y.den := Nat.cast_pos.2 hy
  rw [value, value, div_le_div_iff₀ hx' hy', le, decide_eq_true_iff]
  norm_cast

end Operations

end Binary64

end Slipway
