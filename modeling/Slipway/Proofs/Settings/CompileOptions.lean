import Mathlib.Data.List.TakeWhile
import Slipway.Plan.Install
import Slipway.Proofs.Text.Words
import Slipway.Settings
set_option autoImplicit false

namespace Slipway

theorem trim_eq_nil_iff (t : Text) : trim t = [] ↔ ∀ c ∈ t, isBlank c = true := by
  rw [trim, trimEnd, trimStart, List.reverse_eq_nil_iff, List.dropWhile_eq_nil_iff]
  simp only [List.mem_reverse]
  refine ⟨fun h => ?_, fun h c hc => h c ((List.dropWhile_sublist isBlank).subset hc)⟩
  rw [← List.takeWhile_append_dropWhile (p := isBlank) (l := t)]
  intro c hc
  rcases List.mem_append.1 hc with hc | hc
  · exact List.mem_takeWhile_imp hc
  · exact h c hc

namespace Settings

variable {vars : List (Text × Text)} {name v : Text}

theorem lastBinding?_eq_some_iff :
    lastBinding? vars name = some v ↔
      ∃ before after, vars = before ++ (name, v) :: after ∧ ∀ b ∈ after, b.1 ≠ name := by
  rw [lastBinding?, List.lookup_eq_some_iff]
  constructor
  · rintro ⟨after, before, hvars, hafter⟩
    refine ⟨before.reverse, after.reverse, ?_, fun b hb => ?_⟩
    · rw [← List.reverse_reverse vars, hvars]
      simp
    · have hne := hafter b (List.mem_reverse.1 hb)
      exact fun heq => by simp [heq] at hne
  · rintro ⟨before, after, rfl, hafter⟩
    refine ⟨after.reverse, before.reverse, by simp, fun b hb => ?_⟩
    simpa using fun heq => hafter b (List.mem_reverse.1 hb) heq.symm

theorem nonBlank?_eq_none_iff {value : Option Text} :
    nonBlank? value = none ↔ ∀ v, value = some v → ∀ c ∈ v, isBlank c = true := by
  cases value with
  | none => simp [nonBlank?]
  | some v => simp [nonBlank?, trim_eq_nil_iff]

section CompileArgs

variable {s : Settings} {t : Text}

theorem compileArgs_of_options (h : s.compileOptions = some t) : s.compileArgs = words t := by
  simp [compileArgs, h]

theorem compileArgs_of_spaced (hs : ∀ w ∈ s.compileArgs, w ≠ [] ∧ ∀ c ∈ w, isBlank c = false)
    (h : Spaced s.compileArgs t) : compileArgs { s with compileOptions := some t } = s.compileArgs :=
  (compileArgs_of_options rfl).trans (words_of_spaced h hs)

theorem mem_compileArgs {w : Text} (h : w ∈ s.compileArgs) : w ≠ [] ∧ ∀ c ∈ w, isBlank c = false := by
  cases ho : s.compileOptions with
  | none => simp [compileArgs, ho] at h
  | some t => exact mem_words (compileArgs_of_options ho ▸ h)

theorem compileOptions_ofBindings_eq_none_iff {base : Bytes} :
    (ofBindings vars base).compileOptions = none ↔
      ∀ before v after, vars = before ++ (compileOptionsVar, v) :: after → (∀ b ∈ after, b.1 ≠ compileOptionsVar) →
        ∀ c ∈ v, isBlank c = true := by
  have hlast : (ofBindings vars base).compileOptions = nonBlank? (lastBinding? vars compileOptionsVar) := rfl
  rw [hlast, nonBlank?_eq_none_iff]
  constructor
  · exact fun h before v after hvars hafter => h v (lastBinding?_eq_some_iff.2 ⟨before, after, hvars, hafter⟩)
  · intro h v hv
    obtain ⟨before, after, hvars, hafter⟩ := lastBinding?_eq_some_iff.1 hv
    exact h before v after hvars hafter

theorem compileArgs_ofBindings_eq_nil_iff {base : Bytes} :
    (ofBindings vars base).compileArgs = [] ↔ (ofBindings vars base).compileOptions = none := by
  cases ho : (ofBindings vars base).compileOptions with
  | none => simp [compileArgs, ho]
  | some t =>
    have hlast : nonBlank? (lastBinding? vars compileOptionsVar) = some t := ho
    have hblank : ¬ ∀ c ∈ t, isBlank c = true := by
      rw [← trim_eq_nil_iff]
      simpa using (Option.filter_eq_some_iff.1 hlast).2
    simpa [compileArgs_of_options ho, words_eq_nil_iff] using hblank

end CompileArgs

/-- The compile options reach the compile step as the words that they consist of.  No argument is empty or has White_Space in
it, together they are the options without their White_Space, and one ends exactly where there was some between two other
characters; set out with White_Space between them in any way, they are the same arguments again.  Settings that come from
variables have no arguments exactly where they have no options, and that is where the last binding of the variable, if
there is one, has nothing but White_Space.  The arguments of the compile step are these and no others. -/
theorem compileArgs_are_words (s : Settings) :
    (∀ t, s.compileOptions = some t →
      (∀ w ∈ s.compileArgs, w ≠ [] ∧ ∀ c ∈ w, isBlank c = false) ∧
      s.compileArgs.flatten = solid t ∧
      (∀ pre a gap b post, t = pre ++ a :: gap ++ b :: post → isBlank a = false → isBlank b = false →
        (∀ c ∈ gap, isBlank c = true) →
        (IsBoundary s.compileArgs (solid (pre ++ [a])) (solid (b :: post)) ↔ gap ≠ [])) ∧
      (∀ t', Spaced s.compileArgs t' → compileArgs { s with compileOptions := some t' } = s.compileArgs) ∧
      ∀ gap, IsGap gap →
        compileArgs { s with compileOptions := some (joinWith gap s.compileArgs) } = s.compileArgs) ∧
    (∀ vars base, s = ofBindings vars base →
      (s.compileArgs = [] ↔ s.compileOptions = none) ∧
      (s.compileOptions = none ↔ ∀ before v after, vars = before ++ (compileOptionsVar, v) :: after →
        (∀ b ∈ after, b.1 ≠ compileOptionsVar) → ∀ c ∈ v, isBlank c = true)) ∧
    ∀ r root, ∃ step, (InstallPlan.ofRequest r root s.compileArgs).steps =
        [InstallPlan.configure r, step, InstallPlan.installStep r.withSudo] ∧
      step.name = "compile".toList ∧ step.program = utf8 "make".toList ∧ step.args = s.compileArgs.map utf8 := by
  refine ⟨fun t ht => ⟨fun w => mem_compileArgs, ?_, ?_, fun t' => compileArgs_of_spaced fun w => mem_compileArgs,
    fun gap hg => ?_⟩, ?_, fun r root => ⟨InstallPlan.compile s.compileArgs, rfl, rfl, rfl, rfl⟩⟩
  · rw [compileArgs_of_options ht, flatten_words]
  · rintro pre a gap b post rfl ha hb hgap
    rw [compileArgs_of_options ht]
    exact isBoundary_words_iff ha hb hgap
  · exact compileArgs_of_spaced (fun w => mem_compileArgs) (spaced_joinWith hg _)
  · rintro vars base rfl
    exact ⟨compileArgs_ofBindings_eq_nil_iff, compileOptions_ofBindings_eq_none_iff⟩

theorem compileArgs_are_words_ideographic :
    let options := "\u3000-j8\u2003\tV=1 ".toList
    let s := ofBindings [(compileOptionsVar, " ".toList), (compileOptionsVar, options)] (utf8 "/src".toList)
    s.compileOptions = some options ∧ s.compileArgs.flatten = "-j8V=1".toList ∧
      IsBoundary s.compileArgs "-j8".toList "V=1".toList := by
  intro options s
  have ho : s.compileOptions = some options := rfl
  obtain ⟨-, hflatten, hboundary, -⟩ := (compileArgs_are_words s).1 options ho
  refine ⟨ho, hflatten.trans rfl, ?_⟩
  exact (hboundary "\u3000-j".toList '8' "\u2003\t".toList 'V' "=1 ".toList rfl rfl rfl (List.all_eq_true.1 rfl)).2
    (List.cons_ne_nil _ _)

end Settings

end Slipway
