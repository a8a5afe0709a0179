import Slipway.Duration
import Slipway.Proofs.Binary64
import Slipway.Proofs.Text.Digits
set_option autoImplicit false

/-!
Whether the figure that is shown for a duration fits its unit.  Minutes begin with 1.0.  Seconds end with 59.9 but for the
durations within five hundredths below the minute: they are less than a minute when the unit is chosen, and sixty seconds
when the figure is rounded (`Duration.figure_fits_unit`).
-/

namespace Slipway.Duration

variable {d : Duration}

section Shown

/-- The text is a number with one decimal place, so many tenths, and behind it the unit. -/
def Shows (t : Text) (scale : Scale) (tenths : Nat) : Prop :=
  ∃ whole tenth : Text, t = whole ++ '.' :: tenth ++ [scale.letter] ∧ whole ≠ [] ∧ tenth.length = 1 ∧
    IsDigits (whole ++ tenth) ∧ digitsValue (whole ++ tenth) = tenths

theorem isDigits_natText (n : Nat) : IsDigits (natText n) := fun _ hc =>
  Nat.isDigit_of_mem_toDigits (by decide) (by decide) hc

theorem Scale.letter_injective {s s' : Scale} (h : s.letter = s'.letter) : s = s' := by
  cases s <;> cases s' <;> first | rfl | cases h

theorem shows_text (d : Duration) : Shows d.text d.figure.1 d.figure.2 := by
  have hlast : (natText (d.figure.2 % 10)).length = 1 := by
    have hle : (natText (d.figure.2 % 10)).length ≤ 1 :=
      (Nat.length_toDigits_le_iff (by decide) Nat.one_pos).2 (Nat.mod_lt _ (by decide))
    have hpos := List.length_pos_iff.2 (Nat.toDigits_ne_nil (b := 10) (n := d.figure.2 % 10))
    exact Nat.le_antisymm hle hpos
  refine ⟨natText (d.figure.2 / 10), natText (d.figure.2 % 10), rfl, Nat.toDigits_ne_nil, hlast,
    isDigits_append.2 ⟨isDigits_natText _, isDigits_natText _⟩, ?_⟩
  rw [digitsValue_append, hlast, digitsValue_natText, digitsValue_natText, Nat.pow_one]
  exact Nat.div_add_mod' _ _

theorem Shows.unique {t : Text} {s s' : Scale} {n n' : Nat} (h : Shows t s n) (h' : Shows t s' n') : s = s' ∧ n = n' := by
  obtain ⟨whole, tenth, rfl, -, hl, -, rfl⟩ := h
  obtain ⟨whole', tenth', heq, -, hl', -, rfl⟩ := h'
  obtain ⟨hfront, hletter⟩ := List.append_inj' heq rfl
  obtain ⟨rfl, htail⟩ := List.append_inj' hfront (by simp [hl, hl'])
  obtain ⟨-, rfl⟩ := List.cons.inj htail
  exact ⟨Scale.letter_injective (List.cons.inj hletter).1, rfl⟩

theorem shows_text_iff {s : Scale} {n : Nat} : Shows d.text s n ↔ d.figure = (s, n) := by
  constructor
  · intro h
    obtain ⟨hs, hn⟩ := (shows_text d).unique h
    exact Prod.ext hs hn
  · intro h
    have hshows := shows_text d
    rwa [h] at hshows

end Shown

section Seconds

open Binary64

theorem exists_roundsTo_seconds (h : d.nanos < 1000000000) :
    ∃ fraction : ℚ, RoundsTo (d.nanos / 10 ^ 9) fraction ∧ RoundsTo ((ofNat d.secs).value + fraction) d.seconds.value := by
  have hnanos : (ofNat d.nanos).value = d.nanos := value_ofNat (by omega)
  unfold seconds
  -- A name keeps the billion from being computed as a double.
  generalize hb : ofNat 1000000000 = billion
  have hbillion : billion.value = 10 ^ 9 := by
    rw [← hb, value_ofNat (by norm_num)]
    norm_num
  have hfraction := roundsTo_div (den_ofNat_pos d.nanos) (num_ne_zero (by rw [hbillion]; norm_num))
  rw [hbillion, hnanos] at hfraction
  exact ⟨_, hfraction, roundsTo_add (den_ofNat_pos d.secs) (den_div_pos _ _)⟩

theorem sixty_le_seconds (h : d.nanos < 1000000000) (hs : 60 ≤ d.secs) : 60 ≤ d.seconds.value := by
  obtain ⟨fraction, hfraction, hsum⟩ := exists_roundsTo_seconds h
  have hsixty : IsDouble 60 := isDouble_natCast (m := 60) (by norm_num)
  have hwhole : 60 ≤ (ofNat d.secs).value := (roundsTo_ofNat d.secs).le_of_le hsixty (by exact_mod_cast hs)
  have hpos : 0 ≤ fraction := hfraction.le_of_le (isDouble_natCast (m := 0) (by norm_num)) (by positivity)
  exact hsum.le_of_le hsixty (by linarith)

/-- Less than a minute is exact to 31 places behind the point. -/
theorem isDouble_add_steps {n k : ℕ} (hn : n < 60) (hk : k < 2 ^ 31) : IsDouble (n + k / 2 ^ 31) := by
  have hsteps : (n : ℚ) + k / 2 ^ 31 = (n * 2 ^ 31 + k : ℕ) / 2 ^ 31 := by
    rw [Nat.cast_add, Nat.cast_mul, add_div, Nat.cast_pow, Nat.cast_ofNat, mul_div_cancel_right₀ _ (by norm_num)]
  rw [hsteps]
  exact isDouble_div_two_pow 31 (by omega)

theorem seconds_le (h : d.nanos < 1000000000) (hs : d.secs < 60) {k : ℕ} (hk : k < 2 ^ 31)
    (hle : (d.nanos : ℚ) / 10 ^ 9 ≤ k / 2 ^ 31) : d.seconds.value ≤ d.secs + k / 2 ^ 31 := by
  obtain ⟨fraction, hfraction, hsum⟩ := exists_roundsTo_seconds h
  have hup := hfraction.le_of_ge (isDouble_div_two_pow 31 (by omega)) hle
  rw [value_ofNat (by omega)] at hsum
  exact hsum.le_of_ge (isDouble_add_steps hs hk) (by linarith)

theorem le_seconds (h : d.nanos < 1000000000) (hs : d.secs < 60) {k : ℕ} (hk : k < 2 ^ 31)
    (hle : (k : ℚ) / 2 ^ 31 ≤ d.nanos / 10 ^ 9) : d.secs + k / 2 ^ 31 ≤ d.seconds.value := by
  obtain ⟨fraction, hfraction, hsum⟩ := exists_roundsTo_seconds h
  have hdown := hfraction.le_of_le (isDouble_div_two_pow 31 (by omega)) hle
  rw [value_ofNat (by omega)] at hsum
  exact hsum.le_of_le (isDouble_add_steps hs hk) (by linarith)

theorem seconds_lt_succ (h : d.nanos < 1000000000) (hs : d.secs < 60) : d.seconds.value < d.secs + 1 := by
  have hnanos : (d.nanos : ℚ) ≤ 999999999 := by exact_mod_cast (by omega : d.nanos ≤ 999999999)
  have hle := seconds_le h hs (k := 2 ^ 31 - 1) (by norm_num) (by linarith)
  have hlt : ((2 ^ 31 - 1 : ℕ) : ℚ) / 2 ^ 31 < 1 := by norm_num
  linarith

end Seconds

section Figure

open Binary64

variable {tenths : Nat}

theorem abs_tenths_sub_le {x : Binary64} (hx : 0 < x.den) :
    |(roundHalfEven (10 * x.num) x.den : ℚ) - 10 * x.value| ≤ 1 / 2 := by
  have hround := abs_roundHalfEven_sub_le (10 * x.num) hx
  rwa [Nat.cast_mul, Nat.cast_ofNat, mul_div_assoc] at hround

theorem exists_figure_of_lt (h : d.seconds.value < 60) :
    ∃ tenths : ℕ, d.figure = (.seconds, tenths) ∧ |(tenths : ℚ) - 10 * d.seconds.value| ≤ 1 / 2 := by
  have hden : 0 < d.seconds.den := den_add_pos _ _
  have hsixty : (ofNat 60).value = 60 := value_ofNat (by norm_num)
  have hle : ¬ (ofNat 60).le d.seconds = true := by
    rw [le_iff (den_ofNat_pos 60) hden, hsixty]
    exact not_le.2 h
  exact ⟨_, by rw [figure, if_neg hle], abs_tenths_sub_le hden⟩

theorem exists_figure_of_ge (h : 60 ≤ d.seconds.value) :
    ∃ (tenths : ℕ) (minutes : ℚ), d.figure = (.minutes, tenths) ∧ RoundsTo (d.seconds.value / 60) minutes ∧
      |(tenths : ℚ) - 10 * minutes| ≤ 1 / 2 := by
  have hden : 0 < d.seconds.den := den_add_pos _ _
  have hsixty : (ofNat 60).value = 60 := value_ofNat (by norm_num)
  have hne : (ofNat 60).num ≠ 0 := num_ne_zero (by norm_num [hsixty])
  have hle : (ofNat 60).le d.seconds = true := by
    rw [le_iff (den_ofNat_pos 60) hden, hsixty]
    exact h
  have hminutes := roundsTo_div hden hne
  rw [hsixty] at hminutes
  exact ⟨_, _, by rw [figure, if_pos hle], hminutes, abs_tenths_sub_le (den_div_pos _ _)⟩

theorem ten_le_tenths_of_minutes (h : d.nanos < 1000000000) (hs : 60 ≤ d.secs) :
    ∃ tenths, d.figure = (.minutes, tenths) ∧ 10 ≤ tenths := by
  have hsixty := sixty_le_seconds h hs
  obtain ⟨tenths, minutes, hf, hm, ht⟩ := exists_figure_of_ge hsixty
  have hone : 1 ≤ minutes := hm.le_of_le (isDouble_natCast (m := 1) (by norm_num)) (by linarith)
  rw [abs_le] at ht
  have hlt : (9 : ℚ) < tenths := by linarith
  exact ⟨tenths, hf, by exact_mod_cast hlt⟩

theorem tenths_lt_of_seconds_lt (ht : |(tenths : ℚ) - 10 * d.seconds.value| ≤ 1 / 2) (h : d.seconds.value < 1199 / 20) :
    tenths < 600 := by
  rw [abs_le] at ht
  have hlt : (tenths : ℚ) < 600 := by linarith
  exact_mod_cast hlt

theorem le_tenths_of_lt_seconds (ht : |(tenths : ℚ) - 10 * d.seconds.value| ≤ 1 / 2) (h : 1199 / 20 < d.seconds.value) :
    600 ≤ tenths := by
  rw [abs_le] at ht
  have hlt : (599 : ℚ) < tenths := by linarith
  exact_mod_cast hlt

/-- The double that stands for the limit itself is above it. -/
theorem figure_at_limit : figure ⟨59, 950000000⟩ = (.seconds, 600) := by decide +kernel

theorem tenths_of_seconds (h : d.nanos < 1000000000) (hs : d.secs < 60) :
    ∃ tenths, d.figure = (.seconds, tenths) ∧ tenths ≤ 600 ∧ (tenths = 600 ↔ d.secs = 59 ∧ 950000000 ≤ d.nanos) := by
  have hsucc := seconds_lt_succ h hs
  have hwhole : (d.secs : ℚ) ≤ 59 := by exact_mod_cast (by omega : d.secs ≤ 59)
  obtain ⟨tenths, hf, ht⟩ := exists_figure_of_lt (by linarith)
  have hmost : tenths ≤ 600 := by
    rw [abs_le] at ht
    have hlt : (tenths : ℚ) < 601 := by linarith
    exact Nat.lt_succ_iff.1 (by exact_mod_cast hlt)
  refine ⟨tenths, hf, hmost, fun hfull => ?_, fun ⟨hsecs, hnanos⟩ => ?_⟩
  · -- Below 59 seconds, or more than a nanosecond below the limit, the figure is at most 59.9.
    by_contra hlimit
    refine (tenths_lt_of_seconds_lt ht ?_).ne hfull
    by_cases hsecs : d.secs = 59
    · have hnanos : (d.nanos : ℚ) ≤ 949999999 := by exact_mod_cast (by omega : d.nanos ≤ 949999999)
      have hle := seconds_le h hs (k := 2040109465) (by norm_num) (by linarith)
      rw [hsecs] at hle
      norm_num at hle
      linarith
    · have hfewer : (d.secs : ℚ) ≤ 58 := by exact_mod_cast (by omega : d.secs ≤ 58)
      linarith
  · rcases hnanos.eq_or_lt with heq | hlt
    · have hd : d = ⟨59, 950000000⟩ := by rw [← hsecs, heq]
      rw [hd, figure_at_limit] at hf
      exact (Prod.mk.inj hf).2.symm
    · refine le_antisymm hmost (le_tenths_of_lt_seconds ht ?_)
      have hnanos : (950000001 : ℚ) ≤ d.nanos := by exact_mod_cast hlt
      have hle := le_seconds h hs (k := 2040109466) (by norm_num) (by linarith)
      rw [hsecs] at hle
      norm_num at hle
      linarith

end Figure

/-- What is printed for a duration shows one figure in one unit: seconds below the minute, minutes from there.  Minutes are
1.0 at least.  Seconds are 59.9 at most, except that the last twentieth of a second before the minute is shown as 60.0. -/
theorem figure_fits_unit (d : Duration) (h : d.nanos < 1000000000) :
    ∃ scale tenths, (∀ s n, Shows d.text s n ↔ s = scale ∧ n = tenths) ∧
      (scale = .seconds ↔ d.secs < 60) ∧ (scale = .minutes → 10 ≤ tenths) ∧
      (scale = .seconds → tenths ≤ 600 ∧ (tenths = 600 ↔ d.secs = 59 ∧ 950000000 ≤ d.nanos)) := by
  have hshown {scale : Scale} {tenths : Nat} (hf : d.figure = (scale, tenths)) (s : Scale) (n : Nat) :
      Shows d.text s n ↔ s = scale ∧ n = tenths := by
    rw [shows_text_iff, hf, Prod.mk.injEq, eq_comm, eq_comm (a := tenths)]
  by_cases hs : d.secs < 60
  · obtain ⟨tenths, hf, hbounds⟩ := tenths_of_seconds h hs
    exact ⟨.seconds, tenths, hshown hf, by simp [hs], nofun, fun _ => hbounds⟩
  · obtain ⟨tenths, hf, hten⟩ := ten_le_tenths_of_minutes h (not_lt.1 hs)
    exact ⟨.minutes, tenths, hshown hf, by simp [hs], fun _ => hten, nofun⟩

theorem figure_fits_unit_limit :
    let d : Duration := ⟨59, 949999999⟩
    d.nanos < 1000000000 ∧ ∃ tenths, Shows d.text .seconds tenths ∧ tenths < 600 := by
  intro d
  have hnanos : d.nanos < 1000000000 := by decide
  obtain ⟨scale, tenths, hshows, hscale, -, hbound⟩ := figure_fits_unit d hnanos
  obtain rfl := hscale.2 (by decide)
  obtain ⟨hle, hfull⟩ := hbound rfl
  have hne : tenths ≠ 600 := fun heq => absurd (hfull.1 heq).2 (by decide)
  exact ⟨hnanos, tenths, (hshows _ _).2 ⟨rfl, rfl⟩, by omega⟩

/-- Sixty seconds are a minute, but what rounds to sixty seconds is not shown as one. -/
theorem sixty_seconds_shown :
    let d : Duration := ⟨59, 960000000⟩
    d.nanos < 1000000000 ∧ d.text = "60.0s".toList ∧ Shows d.text .seconds 600 ∧
      text ⟨60, 0⟩ = "1.0m".toList := by
  intro d
  exact ⟨by decide, by decide +kernel, shows_text_iff.2 (by decide +kernel), by decide +kernel⟩

end Slipway.Duration
