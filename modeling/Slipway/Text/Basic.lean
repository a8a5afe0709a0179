set_option autoImplicit false

namespace Slipway

abbrev Bytes := List UInt8

abbrev Text := List Char

/-- The stretches of a list between the elements that `sep` marks; always one more than there are marks. -/
def splitWhere {α : Type} (sep : α → Bool) : List α → List (List α)
  | [] => [[]]
  | x :: xs =>
    if sep x then [] :: splitWhere sep xs
    else match splitWhere sep xs with
      | [] => [[x]]
      | y :: ys => (x :: y) :: ys

theorem splitWhere_ne_nil {α : Type} (sep : α → Bool) (xs : List α) : splitWhere sep xs ≠ [] := by
  cases xs with
  | nil => simp [splitWhere]
  | cons x xs =>
    unfold splitWhere
    split
    · simp
    · split <;> simp

theorem splitWhere_append_cons {α : Type} (sep : α → Bool) (xs ys : List α) (x : α) (h : sep x = true) :
    splitWhere sep (xs ++ x :: ys) = splitWhere sep xs ++ splitWhere sep ys := by
  induction xs with
  | nil => simp [splitWhere, h]
  | cons y xs ih =>
    by_cases hy : sep y = true
    · simp [splitWhere, hy, ih]
    · cases hs : splitWhere sep xs with
      | nil => exact absurd hs (splitWhere_ne_nil sep xs)
      | cons p ps => simp [splitWhere, hy, ih, hs]

def joinWith {α : Type} (sep : List α) : List (List α) → List α
  | [] => []
  | [x] => x
  | x :: y :: ys => x ++ sep ++ joinWith sep (y :: ys)

theorem not_sep_of_mem_splitWhere {α : Type} (sep : α → Bool) (xs : List α) :
    ∀ p ∈ splitWhere sep xs, ∀ x ∈ p, sep x = false := by
  induction xs with
  | nil => simp [splitWhere]
  | cons y ys ih =>
    unfold splitWhere
    cases hs : splitWhere sep ys with
    | nil => exact absurd hs (splitWhere_ne_nil sep ys)
    | cons p ps =>
      rw [hs] at ih
      by_cases hy : sep y = true
      · simpa [hy] using ih
      · have hp := ih p (by simp)
        have hps : ∀ q ∈ ps, ∀ x ∈ q, sep x = false := fun q hq => ih q (by simp [hq])
        simp only [hy, Bool.false_eq_true, if_false, List.mem_cons]
        rintro q (rfl | hq) x hx
        · simp only [List.mem_cons] at hx
          rcases hx with rfl | hx
          · simpa using hy
          · exact hp x hx
        · exact hps q hq x hx

theorem joinWith_splitWhere {α : Type} [BEq α] [LawfulBEq α] (x : α) (xs : List α) :
    joinWith [x] (splitWhere (· == x) xs) = xs := by
  induction xs with
  | nil => rfl
  | cons y ys ih =>
    have hne := splitWhere_ne_nil (· == x) ys
    unfold splitWhere
    cases hs : splitWhere (· == x) ys with
    | nil => exact absurd hs hne
    | cons p ps =>
      rw [hs] at ih
      by_cases hy : (y == x) = true
      · have hyx : y = x := eq_of_beq hy
        simp [hyx, joinWith, ih]
      · cases ps with
        | nil => simpa [hy, joinWith] using ih
        | cons q qs => simpa [hy, joinWith] using ih

def firstOccurrences {α : Type} [BEq α] : List α → List α
  | [] => []
  | x :: xs => x :: (firstOccurrences xs).filter (· != x)

@[simp] theorem mem_firstOccurrences {α : Type} [BEq α] [LawfulBEq α] (x : α) (xs : List α) :
    x ∈ firstOccurrences xs ↔ x ∈ xs := by
  induction xs with
  | nil => rfl
  | cons y ys ih =>
    by_cases h : x = y
    · simp [firstOccurrences, h]
    · simp [firstOccurrences, h, ih]

theorem nodup_firstOccurrences {α : Type} [BEq α] [LawfulBEq α] (xs : List α) :
    (firstOccurrences xs).Nodup := by
  induction xs with
  | nil => simp [firstOccurrences]
  | cons y ys ih =>
    simp only [firstOccurrences, List.nodup_cons]
    exact ⟨by simp, ih.filter _⟩

def natText (n : Nat) : Text := Nat.toDigits 10 n

def intText : Int → Text
  | .ofNat n => natText n
  | .negSucc n => '-' :: natText (n + 1)

def digitsValue (t : Text) : Nat := t.foldl (fun n c => n * 10 + (c.toNat - 48)) 0

def natOfText? (t : Text) : Option Nat := if !t.isEmpty && t.all Char.isDigit then some (digitsValue t) else none

def paddedNat (width n : Nat) : Text :=
  let digits := natText n
  List.replicate (width - digits.length) '0' ++ digits

end Slipway
