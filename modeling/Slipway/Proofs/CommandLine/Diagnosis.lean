import Slipway.Proofs.CommandLine.Refusal
import Slipway.Proofs.CommandLine.Request
set_option autoImplicit false

namespace Slipway

theorem infix_joinWith {α : Type} {sep w : List α} {ws : List (List α)} (h : w ∈ ws) : w <:+: joinWith sep ws := by
  induction ws with
  | nil => cases h
  | cons x ws ih =>
    cases ws with
    | nil =>
      rw [List.mem_singleton] at h
      exact h ▸ List.infix_refl _
    | cons y ws =>
      obtain rfl | h := List.mem_cons.1 h
      · exact ⟨[], sep ++ joinWith sep (y :: ws), by simp [joinWith]⟩
      · exact (ih h).trans (List.suffix_append _ _).isInfix

theorem exists_first_repeat {α κ : Type} (key : α → κ) (l : List α) (h : ¬ (l.map key).Nodup) :
    ∃ first x rest, l = first ++ x :: rest ∧ (first.map key).Nodup ∧ key x ∈ first.map key := by
  suffices hall : ∀ (l seen : List α), (seen.map key).Nodup → ¬ ((seen ++ l).map key).Nodup →
      ∃ first x rest, seen ++ l = first ++ x :: rest ∧ (first.map key).Nodup ∧ key x ∈ first.map key from
    hall l [] (by simp) h
  intro l
  induction l with
  | nil => exact fun seen hd h => absurd (by simpa using hd) h
  | cons x l ih =>
    intro seen hd h
    by_cases hx : key x ∈ seen.map key
    · exact ⟨seen, x, l, rfl, hd, hx⟩
    · have hd' : ((seen ++ [x]).map key).Nodup := by
        rw [List.map_append, List.nodup_append]
        refine ⟨hd, by simp, ?_⟩
        rintro a ha b hb rfl
        exact hx (List.mem_singleton.1 hb ▸ ha)
      have hsnoc : seen ++ x :: l = seen ++ [x] ++ l := by simp
      rw [hsnoc] at h ⊢
      exact ih (seen ++ [x]) hd' h

theorem trimEnd_of_getLast? {t : Text} (h : ∀ c ∈ t.getLast?, isBlank c = false) : trimEnd t = t := by
  have hd : t.reverse.dropWhile isBlank = t.reverse := by
    rw [← List.head?_reverse] at h
    cases hr : t.reverse with
    | nil => rfl
    | cons c cs => rw [List.dropWhile_cons_of_neg (by simp [h c (by simp [hr])])]
  rw [trimEnd, hd, List.reverse_reverse]

namespace CommandLine

/-- The message stands without a heading and without White_Space behind it, and names the option. -/
structure Names (long message : Text) : Prop where
  no_heading : ¬ "error: ".toList <+: message
  no_trailing : ∀ c ∈ message.getLast?, isBlank c = false
  named : "--".toList ++ long <:+: message

structure Diagnoses (long : Text) (words : List Text) (message : Text) : Prop extends Names long message where
  listed : ∀ w ∈ words, w <:+: message

theorem Spec.long_infix_shown (s : Spec) : "--".toList ++ s.long <:+: s.shown := by
  unfold Spec.shown
  split
  · rw [List.append_assoc, List.append_assoc]
    exact (List.prefix_append _ _).isInfix
  · exact List.infix_refl _

namespace Grammar

variable {ι : Type} (g : Grammar ι)

theorem word_infix_permitted {o : ι} {w : Text} (h : w ∈ (g.spec o).choices.map Choice.word) :
    w <:+: g.permitted o := by
  unfold permitted
  split
  next hc =>
    rw [hc] at h
    cases h
  next choices hc => exact (infix_joinWith h).trans (List.infix_append _ _ _)

variable (name : Text)

theorem names_diagnostic {f : Fault ι} {o : ι} {start rest : Text}
    (hf : g.faultText name f = start ++ ((g.spec o).shown ++ rest)) (hstart : ∃ c ∈ start.head?, c ≠ 'e') :
    Names (g.spec o).long (g.diagnostic name f) where
  no_heading := by
    rintro ⟨u, hu⟩
    obtain ⟨c, hc, hne⟩ := hstart
    have he : "error: ".toList.head? = some 'e' := by decide
    have hhead := congrArg List.head? hu
    rw [diagnostic, hf, List.append_assoc, List.head?_append, List.head?_append, he, hc] at hhead
    exact hne (Option.some.inj hhead).symm
  no_trailing := by
    have hlast : seeHelp.getLast? = some '.' := by decide
    rw [diagnostic, List.getLast?_append, hlast, Option.some_or]
    rintro c ⟨⟩
    decide
  named := by
    refine (g.spec o).long_infix_shown.trans ⟨start, rest ++ seeHelp, ?_⟩
    rw [diagnostic, hf, List.append_assoc, List.append_assoc, List.append_assoc]

theorem names_repeated (o : ι) : Names (g.spec o).long (g.diagnostic name (.repeated o)) := by
  have hf : g.faultText name (.repeated o) = "the argument '".toList ++
      ((g.spec o).shown ++ ("' cannot be used multiple times\n\n".toList ++ usage name [])) := by
    unfold faultText
    simp only [List.append_assoc]
  exact g.names_diagnostic name hf ⟨'t', by decide, by decide⟩

inductive OfValue (o : ι) : Fault ι → Prop
  | valueMissing : OfValue o (.valueMissing o)
  | notAChoice (value : Text) (similar : Option Text) : OfValue o (.notAChoice value o similar)

theorem exists_ofValue {o : ι} {v : Bytes} (hc : (g.spec o).choices ≠ [])
    (hv : ∀ w ∈ (g.spec o).choices.map Choice.word, utf8 w ≠ v) : ∃ f, g.valueFault? o v = some f ∧ OfValue o f := by
  unfold valueFault?
  split
  · exact ⟨_, rfl, .valueMissing⟩
  · split
    next h => exact absurd h hc
    next choices h =>
      have hany : ((g.spec o).choices.any fun c => utf8 c.word == v) = false := by
        simp only [List.any_eq_false, beq_iff_eq]
        exact fun c hc => hv c.word (List.mem_map_of_mem hc)
      rw [if_neg (by simp [hany])]
      exact ⟨_, rfl, .notAChoice _ _⟩

theorem diagnoses_ofValue {o : ι} {f : Fault ι} (h : OfValue o f) :
    Diagnoses (g.spec o).long ((g.spec o).choices.map Choice.word) (g.diagnostic name f) := by
  have hf : ∃ start middle rest, (∃ c ∈ start.head?, c ≠ 'e') ∧
      g.faultText name f = start ++ ((g.spec o).shown ++ (middle ++ (g.permitted o ++ rest))) := by
    unfold faultText
    cases h with
    | valueMissing =>
      refine ⟨"a value is required for '".toList, "' but none was supplied".toList, [], ⟨'a', by decide, by decide⟩, ?_⟩
      simp only [List.append_assoc, List.append_nil]
    | notAChoice value similar =>
      refine ⟨"invalid value '".toList ++ (Terminal.visible value ++ "' for '".toList), "'".toList,
        (similar.map (tip "value".toList)).getD [], ⟨'i', by simp, by decide⟩, ?_⟩
      cases similar <;>
        simp only [List.append_assoc, Option.map_none, Option.map_some, Option.getD_none, Option.getD_some]
  obtain ⟨start, middle, rest, hstart, hf⟩ := hf
  refine ⟨g.names_diagnostic name hf hstart, ?_⟩
  intro w hw
  refine (g.word_infix_permitted hw).trans ⟨start ++ ((g.spec o).shown ++ middle), rest ++ seeHelp, ?_⟩
  rw [diagnostic, hf]
  simp only [List.append_assoc]

theorem parse_refused [BEq ι] {α : Type} (request : List ι → List (ι × Bytes) → α) (tokens : List Bytes)
    {f : Fault ι} {long : Text} (hs : g.scan tokens.tail = .refused f)
    (hf : Names long (g.diagnostic (calledBy g.command tokens) f)) :
    parse g request tokens = .error (.refusedArguments (g.diagnostic (calledBy g.command tokens) f)) := by
  simp only [parse, hs, trimEnd_of_getLast? hf.no_trailing]

end Grammar

inductive WordOption
  | variant
  | tests

namespace WordOption

def option : WordOption → InstallOption
  | .variant => .variant
  | .tests => .tests

def long : WordOption → Text
  | .variant => "buildtype".toList
  | .tests => "tests".toList

def letter : WordOption → Char
  | .variant => 'b'
  | .tests => 't'

def words : WordOption → List Text
  | .variant => BuildVariant.all.map BuildVariant.name
  | .tests => TestSetting.all.map TestSetting.name

def flags (k : WordOption) : List Bytes := [utf8 ("--".toList ++ k.long), utf8 ['-', k.letter]]

theorem spec_option (k : WordOption) :
    (install.spec k.option).long = k.long ∧ (install.spec k.option).kind.isValue = true ∧
      (install.spec k.option).letter? = some k.letter ∧ (install.spec k.option).choices.map Choice.word = k.words := by
  cases k <;> exact ⟨rfl, rfl, rfl, rfl⟩

end WordOption

/-- Arguments that give the option a value it does not take, with items behind it, or leave it last without one. -/
inductive Misuses (k : WordOption) : List Bytes → Prop
  | value (v : Bytes) (s : Spelling) (after : List InstallItem) (hv : ∀ w ∈ k.words, utf8 w ≠ v) (hs : s.Carries v) :
      Misuses k (s.tokens k.long k.letter v ++ after.flatMap InstallItem.tokens)
  | missing (t : Bytes) (ht : t ∈ k.flags) : Misuses k [t]

theorem WordOption.awaits (k : WordOption) (t : Bytes) (ht : t ∈ k.flags) : install.Awaits k.option t := by
  obtain ⟨hlong, hk, hletter, -⟩ := k.spec_option
  simp only [flags, List.mem_cons, List.not_mem_nil, or_false] at ht
  obtain rfl | rfl := ht
  · rw [utf8_dashes, ← hlong]
    exact .long hk
  · rw [utf8_letter, utf8_nil, List.append_nil]
    exact .letter hk hletter

namespace Misuses

variable {k : WordOption} {args : List Bytes} (h : Misuses k args)

include h

theorem unveils : ∀ t ∈ args.head?, install.Unveils t := by
  obtain ⟨hlong, hk, hletter, -⟩ := k.spec_option
  cases h with
  | value v s after hv hs =>
    rw [← hlong]
    exact (Grammar.spells_spelling install hk hletter hs).unveils clear_install _
  | missing t ht =>
    rintro t ⟨⟩
    exact (k.awaits _ ht).unveils clear_install

theorem scan (before : List InstallItem) (hd : (before.map InstallItem.option).Nodup)
    (hb : k.option ∉ before.map InstallItem.option) :
    ∃ f, Grammar.OfValue k.option f ∧ install.scan (before.flatMap InstallItem.tokens ++ args) = .refused f := by
  obtain ⟨hlong, hk, hletter, hwords⟩ := k.spec_option
  cases h with
  | value v s after hv hs =>
    have hc : (install.spec k.option).choices ≠ [] := by cases k <;> exact List.cons_ne_nil _ _
    obtain ⟨f, hf, hof⟩ := install.exists_ofValue hc (hwords.symm ▸ hv)
    have hspells := Grammar.spells_spelling install hk hletter hs
    rw [hlong] at hspells
    exact ⟨f, hof, wordedInstall.scan_valueFault clear_install before hd hb hspells hk hf after⟩
  | missing t ht =>
    exact ⟨_, .valueMissing, wordedInstall.scan_valueMissing clear_install before hd (k.awaits t ht)⟩

end Misuses

end CommandLine

open CommandLine

/-- A misused option is diagnosed by its name and its words when no option is used twice before it; otherwise the
first option used again is what the message names. -/
theorem misuse_diagnosed (base name : Bytes) (k : WordOption) (before : List InstallItem) (args : List Bytes)
    (hb : k.option ∉ before.map InstallItem.option) (h : Misuses k args) :
    ((before.map InstallItem.option).Nodup →
        ∃ message, InstallRequest.parse base (name :: (before.flatMap InstallItem.tokens ++ args)) =
            .error (.refusedArguments message) ∧ Diagnoses k.long k.words message) ∧
      (¬ (before.map InstallItem.option).Nodup →
        ∃ first i rest message, before = first ++ i :: rest ∧ (first.map InstallItem.option).Nodup ∧
          i.option ∈ first.map InstallItem.option ∧
          InstallRequest.parse base (name :: (before.flatMap InstallItem.tokens ++ args)) =
            .error (.refusedArguments message) ∧ Names (install.spec i.option).long message) := by
  constructor
  · intro hd
    obtain ⟨f, hof, hs⟩ := h.scan before hd hb
    obtain ⟨hlong, -, -, hwords⟩ := k.spec_option
    have hdiag (called : Text) := install.diagnoses_ofValue called hof
    refine ⟨_, install.parse_refused (installRequest base) _ hs (hdiag _).toNames, ?_⟩
    rw [← hlong, ← hwords]
    exact hdiag _
  · intro hd
    obtain ⟨first, i, rest, rfl, hfirst, hi⟩ := exists_first_repeat InstallItem.option before hd
    have hrest := wordedInstall.unveils_items clear_install rest args h.unveils
    have hs := wordedInstall.scan_repeated clear_install first hfirst i hi _ hrest
    have hnames (called : Text) := install.names_repeated called i.option
    refine ⟨first, i, rest, _, rfl, hfirst, hi, install.parse_refused (installRequest base) _ ?_ (hnames _), hnames _⟩
    rw [List.tail_cons, List.flatMap_append, List.flatMap_cons, List.append_assoc, List.append_assoc]
    exact hs

theorem misuse_diagnosed_undecodable :
    (∃ message, InstallRequest.parse (utf8 "/home/dev".toList) [utf8 "install-fofimon".toList,
          utf8 "--no-sudo".toList, utf8 "-bDebug".toList, utf8 "-t".toList ++ [0xFF], utf8 "--destdir=x".toList] =
        .error (.refusedArguments message) ∧
      Diagnoses "tests".toList ["On".toList, "Off".toList, "Cache".toList] message) ∧
    (∃ message, InstallRequest.parse (utf8 "/home/dev".toList) [utf8 "install-fofimon".toList,
          utf8 "--no-sudo".toList, utf8 "--no-sudo".toList, utf8 "--tests".toList] =
        .error (.refusedArguments message) ∧ Names "no-sudo".toList message) := by
  constructor
  · have hargs : Misuses .tests ([utf8 "-t".toList ++ [0xFF], utf8 "--destdir=x".toList]) :=
      .value [0xFF] .letterJoined [.destinationJoined (utf8 "x".toList) (by decide)] (by decide) ⟨by decide, by decide⟩
    exact (misuse_diagnosed (utf8 "/home/dev".toList) (utf8 "install-fofimon".toList) .tests
      [.noSudo, .variant .debug .letterJoined] _ (by decide) hargs).1 (by decide)
  · have hargs : Misuses .tests [utf8 "--tests".toList] := .missing _ (by decide)
    obtain ⟨first, i, rest, message, hbefore, -, hi, hparse, hnames⟩ := (misuse_diagnosed (utf8 "/home/dev".toList)
      (utf8 "install-fofimon".toList) .tests [.noSudo, .noSudo] _ (by decide) hargs).2 (by decide)
    have hi' : i ∈ ([.noSudo, .noSudo] : List InstallItem) := by simp [hbefore]
    simp only [List.mem_cons, List.not_mem_nil, or_false, or_self] at hi'
    subst hi'
    exact ⟨message, hparse, hnames⟩

/-- A switch given twice is told before the bad value behind it, which the message leaves out. -/
theorem repeated_switch_told_first :
    ¬ ∀ (base name : Bytes) (k : WordOption) (before : List InstallItem) (args : List Bytes),
      k.option ∉ before.map InstallItem.option → Misuses k args →
        ∃ message, InstallRequest.parse base (name :: (before.flatMap InstallItem.tokens ++ args)) =
            .error (.refusedArguments message) ∧ Diagnoses k.long k.words message := by
  intro h
  have hargs : Misuses .variant [utf8 "-b".toList, utf8 "Fast".toList] :=
    .value (utf8 "Fast".toList) .letterApart [] (by decide) (.inr (by decide))
  obtain ⟨message, hparse, hdiag⟩ := h (utf8 "/home/dev".toList) (utf8 "install-fofimon".toList) .variant
    [.noSudo, .noSudo] _ (by decide) hargs
  have hs := wordedInstall.scan_repeated clear_install [.noSudo] (by decide) .noSudo (by decide) _ hargs.unveils
  have hnames := install.names_repeated "install-fofimon".toList .noSudo
  have htold := install.parse_refused (installRequest (utf8 "/home/dev".toList)) (utf8 "install-fofimon".toList :: _)
    hs hnames
  have hmessage := Failure.refusedArguments.inj (Except.error.inj (hparse.symm.trans htold))
  have hnamed := hdiag.named
  rw [hmessage] at hnamed
  exact absurd hnamed (by decide +kernel)

end Slipway
