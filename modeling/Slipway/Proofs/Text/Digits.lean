import Mathlib.Algebra.Group.Nat.Defs
import Slipway.Text.Utf8.RoundTrip
set_option autoImplicit false

namespace Slipway

def IsDigits (t : Text) : Prop := ∀ c ∈ t, c.isDigit = true

theorem isDigits_append {s t : Text} : IsDigits (s ++ t) ↔ IsDigits s ∧ IsDigits t := List.forall_mem_append

theorem toNat_of_isDigit {c : Char} (h : c.isDigit = true) : 48 ≤ c.toNat ∧ c.toNat ≤ 57 := by
  simpa [Char.isDigit, UInt32.le_iff_toNat_le] using h

section Value

theorem foldl_digits (t : Text) (n : Nat) :
    t.foldl (fun n c => n * 10 + (c.toNat - 48)) n = n * 10 ^ t.length + digitsValue t := by
  unfold digitsValue
  induction t generalizing n with
  | nil => simp
  | cons c t ih =>
    rw [List.foldl_cons, ih, List.foldl_cons, ih (0 * 10 + (c.toNat - 48)), List.length_cons, Nat.pow_succ']
    simp only [Nat.add_mul, Nat.mul_assoc, Nat.zero_mul, Nat.zero_add, Nat.add_assoc]

theorem digitsValue_append (s t : Text) : digitsValue (s ++ t) = digitsValue s * 10 ^ t.length + digitsValue t := by
  rw [digitsValue, List.foldl_append, foldl_digits]
  rfl

theorem digitsValue_cons (c : Char) (t : Text) : digitsValue (c :: t) = (c.toNat - 48) * 10 ^ t.length + digitsValue t := by
  simpa [digitsValue] using digitsValue_append [c] t

theorem digitsValue_lt {t : Text} (h : IsDigits t) : digitsValue t < 10 ^ t.length := by
  induction t with
  | nil => simp [digitsValue]
  | cons c t ih =>
    obtain ⟨hc, ht⟩ := List.forall_mem_cons.1 h
    have hrest := ih ht
    have hdigit := (toNat_of_isDigit hc).2
    have hmul : (c.toNat - 48) * 10 ^ t.length ≤ 9 * 10 ^ t.length := Nat.mul_le_mul_right _ (by omega)
    rw [digitsValue_cons, List.length_cons, Nat.pow_succ]
    omega

end Value

section Written

theorem isDigits_paddedNat (width n : Nat) : IsDigits (paddedNat width n) := by
  refine isDigits_append.2 ⟨fun c hc => ?_, fun c hc => Nat.isDigit_of_mem_toDigits (by decide) (by decide) hc⟩
  rw [List.eq_of_mem_replicate hc]
  rfl

theorem digitsValue_natText (n : Nat) : digitsValue (natText n) = n := by
  have h : digitsValue (natText n) = Nat.ofDigitChars 10 (natText n) 0 := by
    rw [Nat.ofDigitChars_eq_foldl, digitsValue]
    congr 1
    funext m c
    rw [Nat.mul_comm]
    rfl
  rw [h]
  exact Nat.ofDigitChars_toDigits (by decide) (by decide)

theorem digitsValue_paddedNat (width n : Nat) : digitsValue (paddedNat width n) = n := by
  have hzeros : ∀ k, digitsValue (List.replicate k '0') = 0 := fun k => by
    induction k with
    | zero => rfl
    | succ k ih => rw [List.replicate_succ, digitsValue_cons, ih]; simp
  rw [paddedNat, digitsValue_append, hzeros, digitsValue_natText, Nat.zero_mul, Nat.zero_add]

theorem length_paddedNat {width n : Nat} (hw : 0 < width) (h : n < 10 ^ width) : (paddedNat width n).length = width := by
  have hle : (natText n).length ≤ width := (Nat.length_toDigits_le_iff (by decide) hw).2 h
  simp only [paddedNat, List.length_append, List.length_replicate]
  omega

theorem natOfText?_paddedNat (width n : Nat) : natOfText? (paddedNat width n) = some n := by
  have hne : paddedNat width n ≠ [] := by simp [paddedNat, natText, Nat.toDigits_ne_nil]
  have hall : (paddedNat width n).all Char.isDigit = true := List.all_eq_true.2 (isDigits_paddedNat width n)
  simp [natOfText?, hne, hall, digitsValue_paddedNat]

end Written

section Order

theorem mul_add_lt_iff {a b k x y : Nat} (hx : x < k) (hy : y < k) :
    a * k + x < b * k + y ↔ a < b ∨ a = b ∧ x < y := by
  have hless {a b : Nat} (h : a < b) : a * k + k ≤ b * k := by
    rw [← Nat.succ_mul]
    exact Nat.mul_le_mul_right k h
  rcases Nat.lt_trichotomy a b with h | rfl | h
  · have hmul := hless h
    omega
  · omega
  · have hmul := hless h
    omega

theorem utf8EncodeChar_of_isDigit {c : Char} (h : c.isDigit = true) :
    String.utf8EncodeChar c = [UInt8.ofNat c.toNat] := by
  have hc := toNat_of_isDigit h
  have hencoded := utf8EncodeChar_ofNat (n := c.toNat) (.inl (by omega))
  rwa [Char.ofNat_toNat, if_pos (by omega)] at hencoded

theorem toNat_ofNat_of_isDigit {c : Char} (h : c.isDigit = true) : (UInt8.ofNat c.toNat).toNat = c.toNat :=
  UInt8.toNat_ofNat_of_lt' (Nat.lt_of_le_of_lt (toNat_of_isDigit h).2 (by decide))

theorem utf8_lt_iff_of_isDigits {s t : Text} (hs : IsDigits s) (ht : IsDigits t) (hl : s.length = t.length)
    (rest : Bytes) : utf8 s ++ rest < utf8 t ++ rest ↔ digitsValue s < digitsValue t := by
  induction s generalizing t with
  | nil =>
    obtain rfl := List.length_eq_zero_iff.1 hl.symm
    simp [List.lt_irrefl]
  | cons c s ih =>
    cases t with
    | nil => cases hl
    | cons c' t =>
      obtain ⟨hc, hs⟩ := List.forall_mem_cons.1 hs
      obtain ⟨hc', ht⟩ := List.forall_mem_cons.1 ht
      have hl : s.length = t.length := Nat.succ.inj hl
      have hlow := (toNat_of_isDigit hc).1
      have hlow' := (toNat_of_isDigit hc').1
      have hbytes : utf8 (c :: s) ++ rest < utf8 (c' :: t) ++ rest ↔
          c.toNat < c'.toNat ∨ c.toNat = c'.toNat ∧ utf8 s ++ rest < utf8 t ++ rest := by
        simp only [utf8_cons, utf8EncodeChar_of_isDigit hc, utf8EncodeChar_of_isDigit hc', List.cons_append,
          List.nil_append, List.cons_lt_cons_iff, UInt8.lt_iff_toNat_lt, ← UInt8.toNat_inj, toNat_ofNat_of_isDigit hc,
          toNat_ofNat_of_isDigit hc']
      rw [hbytes, ih hs ht hl, digitsValue_cons, digitsValue_cons, hl,
        mul_add_lt_iff (hl ▸ digitsValue_lt hs) (digitsValue_lt ht)]
      omega

theorem append_lt_append_iff (front s t : Bytes) : front ++ s < front ++ t ↔ s < t := by
  induction front with
  | nil => rfl
  | cons b front ih => simp [ih]

end Order

end Slipway
