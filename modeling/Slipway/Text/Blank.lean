import Slipway.Text.Basic
set_option autoImplicit false

namespace Slipway

/-- White_Space has these ranges and single characters; the property has been stable for years. -/
def blankRanges : List (Nat × Nat) :=
  [(0x9, 0xD), (0x20, 0x20), (0x85, 0x85), (0xA0, 0xA0), (0x1680, 0x1680), (0x2000, 0x200A),
    (0x2028, 0x2029), (0x202F, 0x202F), (0x205F, 0x205F), (0x3000, 0x3000)]

def inRanges (table : List (Nat × Nat)) (n : Nat) : Bool := table.any fun r => r.1 ≤ n && n ≤ r.2

def isBlank (c : Char) : Bool := inRanges blankRanges c.toNat

def trimStart (t : Text) : Text := t.dropWhile isBlank

def trimEnd (t : Text) : Text := (t.reverse.dropWhile isBlank).reverse

def trim (t : Text) : Text := trimEnd (trimStart t)

def words (t : Text) : List Text := (splitWhere isBlank t).filter (! ·.isEmpty)

theorem words_eq_nil_iff (t : Text) : words t = [] ↔ ∀ c ∈ t, isBlank c = true := by
  induction t with
  | nil => simp [words, splitWhere]
  | cons c cs ih =>
    simp only [words] at ih ⊢
    by_cases h : isBlank c = true
    · simpa [splitWhere, h] using ih
    · cases hs : splitWhere isBlank cs with
      | nil => exact absurd hs (splitWhere_ne_nil isBlank cs)
      | cons p ps => simp [splitWhere, h, hs]

theorem mem_words {t w : Text} (h : w ∈ words t) : w ≠ [] ∧ ∀ c ∈ w, isBlank c = false := by
  obtain ⟨hw, hne⟩ := List.mem_filter.1 h
  exact ⟨by simpa using hne, not_sep_of_mem_splitWhere isBlank t w hw⟩

theorem words_append_cons (s t : Text) (c : Char) (h : isBlank c = true) :
    words (s ++ c :: t) = words s ++ words t := by
  simp [words, splitWhere_append_cons isBlank s t c h]

example : words "  -j8   VERBOSE=1 ".toList = ["-j8".toList, "VERBOSE=1".toList] := by decide

end Slipway
