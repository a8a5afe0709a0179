import Slipway.Proofs.Machine.Join
import Slipway.Text.Blank
set_option autoImplicit false

namespace Slipway

def solid (t : Text) : Text := t.filter fun c => !isBlank c

structure IsGap (g : Text) : Prop where
  nonempty : g ≠ []
  blank : ∀ c ∈ g, isBlank c = true

/-- Between these two stretches of its characters one word ends and the next begins. -/
def IsBoundary (ws : List Text) (before after : Text) : Prop :=
  ∃ front back, ws = front ++ back ∧ front.flatten = before ∧ back.flatten = after

inductive Spaced : List Text → Text → Prop
  | nil : Spaced [] []
  | single (w : Text) : Spaced [w] w
  | cons {w gap next t : Text} {ws : List Text} (hg : IsGap gap) (h : Spaced (next :: ws) t) :
    Spaced (w :: next :: ws) (w ++ gap ++ t)

section Gaps

variable {t gap : Text}

theorem words_of_solid (hne : t ≠ []) (h : ∀ c ∈ t, isBlank c = false) : words t = [t] := by
  simp [words, splitWhere_eq_singleton h, hne]

theorem words_blank_append (t : Text) (h : ∀ c ∈ gap, isBlank c = true) : words (gap ++ t) = words t := by
  induction gap with
  | nil => rfl
  | cons c gap ih =>
    obtain ⟨hc, hrest⟩ := List.forall_mem_cons.1 h
    exact (words_append_cons [] (gap ++ t) c hc).trans (ih hrest)

theorem words_append_gap (s t : Text) (hg : IsGap gap) : words (s ++ gap ++ t) = words s ++ words t := by
  cases gap with
  | nil => exact absurd rfl hg.nonempty
  | cons c gap =>
    obtain ⟨hc, hrest⟩ := List.forall_mem_cons.1 hg.blank
    rw [List.append_assoc, List.cons_append, words_append_cons _ _ _ hc, words_blank_append t hrest]

end Gaps

section Flatten

theorem flatten_splitWhere {α : Type} (sep : α → Bool) (xs : List α) :
    (splitWhere sep xs).flatten = xs.filter fun x => !sep x := by
  induction xs with
  | nil => rfl
  | cons x xs ih =>
    cases hs : splitWhere sep xs with
    | nil => exact absurd hs (splitWhere_ne_nil sep xs)
    | cons p ps =>
      rw [hs] at ih
      cases hx : sep x <;> simp [splitWhere, hs, hx, ← ih]

theorem flatten_words (t : Text) : (words t).flatten = solid t := by
  rw [words, List.flatten_filter_not_isEmpty, flatten_splitWhere, solid]

end Flatten

section Boundaries

theorem splitWhere_append {α : Type} {sep : α → Bool} {xs ys p q : List α} {ps qs : List (List α)}
    (hx : splitWhere sep xs = ps ++ [p]) (hy : splitWhere sep ys = q :: qs) :
    splitWhere sep (xs ++ ys) = ps ++ (p ++ q) :: qs := by
  induction xs generalizing ps p with
  | nil =>
    obtain ⟨rfl, hp⟩ := List.append_inj' (show [] ++ [[]] = ps ++ [p] from hx) rfl
    simp [hy, ← (List.cons.inj hp).1]
  | cons x xs ih =>
    cases hsep : sep x with
    | true =>
      cases ps with
      | nil => simp [splitWhere, hsep, splitWhere_ne_nil] at hx
      | cons p' ps =>
        obtain ⟨rfl, hxs⟩ : [] = p' ∧ splitWhere sep xs = ps ++ [p] := by simpa [splitWhere, hsep] using hx
        simp [splitWhere, hsep, ih hxs]
    | false =>
      cases hs : splitWhere sep xs with
      | nil => exact absurd hs (splitWhere_ne_nil sep xs)
      | cons p' more =>
        cases ps with
        | nil =>
          obtain ⟨rfl, rfl⟩ : x :: p' = p ∧ more = [] := by simpa [splitWhere, hsep, hs] using hx
          have hone : splitWhere sep xs = [] ++ [p'] := hs
          simp [splitWhere, hsep, ih hone]
        | cons p'' ps =>
          obtain ⟨rfl, rfl⟩ : x :: p' = p'' ∧ more = ps ++ [p] := by simpa [splitWhere, hsep, hs] using hx
          have hmore : splitWhere sep xs = p' :: ps ++ [p] := hs
          simp [splitWhere, hsep, ih hmore]

variable {a b : Char}

theorem exists_word_across (pre post : Text) (ha : isBlank a = false) (hb : isBlank b = false) :
    ∃ front x y back, words (pre ++ [a]) = front ++ [x ++ [a]] ∧
      words (pre ++ a :: b :: post) = front ++ (x ++ a :: b :: y) :: back := by
  obtain ⟨ps, x, hpre⟩ : ∃ ps x, splitWhere isBlank pre = ps ++ [x] := by
    rcases List.eq_nil_or_concat (splitWhere isBlank pre) with h | ⟨ps, x, h⟩
    · exact absurd h (splitWhere_ne_nil isBlank pre)
    · exact ⟨ps, x, by rw [h, List.concat_eq_append]⟩
  obtain ⟨y, qs, hpost⟩ : ∃ y qs, splitWhere isBlank post = y :: qs :=
    List.exists_cons_of_ne_nil (splitWhere_ne_nil isBlank post)
  have hlast : splitWhere isBlank [a] = [a] :: [] := by simp [splitWhere, ha]
  have hnext : splitWhere isBlank (a :: b :: post) = (a :: b :: y) :: qs := by simp [splitWhere, ha, hb, hpost]
  refine ⟨ps.filter (! ·.isEmpty), x, y, qs.filter (! ·.isEmpty), ?_, ?_⟩
  · rw [words, splitWhere_append hpre hlast]
    simp
  · rw [words, splitWhere_append hpre hnext]
    simp

/-- Between a character and the next one that is not White_Space a word ends just where a gap is. -/
theorem isBoundary_words_iff {pre gap post : Text} (ha : isBlank a = false) (hb : isBlank b = false)
    (hgap : ∀ c ∈ gap, isBlank c = true) :
    IsBoundary (words (pre ++ a :: gap ++ b :: post)) (solid (pre ++ [a])) (solid (b :: post)) ↔ gap ≠ [] := by
  constructor
  · rintro ⟨before, after, hwords, hbefore, -⟩ rfl
    obtain ⟨front, x, y, back, hpre, hacross⟩ := exists_word_across pre post ha hb
    rw [List.append_assoc, List.cons_append, List.nil_append, hacross] at hwords
    rw [← flatten_words, hpre] at hbefore
    have hlength := congrArg List.length hbefore
    -- The words before the boundary end with the one that goes across it, or before that: too long or too short.
    rcases List.append_eq_append_iff.1 hwords with ⟨as, rfl, hback⟩ | ⟨bs, rfl, -⟩
    · cases as with
      | nil => simp at hlength
      | cons w as =>
        obtain rfl := (List.cons.inj hback).1
        simp at hlength
    · simp at hlength
  · intro hne
    have hsplit : pre ++ a :: gap ++ b :: post = pre ++ [a] ++ gap ++ b :: post := by simp
    exact ⟨words (pre ++ [a]), words (b :: post), by rw [hsplit, words_append_gap _ _ ⟨hne, hgap⟩], flatten_words _,
      flatten_words _⟩

end Boundaries

section Spaced

variable {ws : List Text} {t gap : Text}

theorem words_of_spaced (h : Spaced ws t) (hws : ∀ w ∈ ws, w ≠ [] ∧ ∀ c ∈ w, isBlank c = false) : words t = ws := by
  induction h with
  | nil => rfl
  | single w =>
    obtain ⟨hne, hw⟩ := hws w (by simp)
    exact words_of_solid hne hw
  | @cons w gap next t ws hg _ ih =>
    obtain ⟨⟨hne, hw⟩, hrest⟩ := List.forall_mem_cons.1 hws
    rw [words_append_gap w t hg, words_of_solid hne hw, ih hrest, List.singleton_append]

theorem spaced_joinWith (hg : IsGap gap) (ws : List Text) : Spaced ws (joinWith gap ws) := by
  induction ws with
  | nil => exact .nil
  | cons w ws ih =>
    cases ws with
    | nil => exact .single w
    | cons next ws => exact .cons hg ih

end Spaced

end Slipway
