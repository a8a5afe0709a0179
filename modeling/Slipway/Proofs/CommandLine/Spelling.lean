import Slipway.CommandLine.Request
import Slipway.Proofs.CommandLine.Scan
set_option autoImplicit false

namespace Slipway.CommandLine

inductive Spelling
  | longApart
  | longJoined
  | letterApart
  | letterJoined
  | letterEquals

def Spelling.tokens (long : Text) (letter : Char) (value : Bytes) : Spelling → List Bytes
  | .longApart => [utf8 ("--".toList ++ long), value]
  | .longJoined => [utf8 ("--".toList ++ long ++ ['=']) ++ value]
  | .letterApart => [utf8 ['-', letter], value]
  | .letterJoined => [utf8 ['-', letter] ++ value]
  | .letterEquals => [utf8 ['-', letter, '='] ++ value]

theorem utf8_dashes (long : Text) : utf8 ("--".toList ++ long) = dashes ++ utf8 long := by
  rw [utf8_append]
  rfl

theorem utf8_letter (c : Char) (rest : Text) : utf8 ('-' :: c :: rest) = letterToken c ++ utf8 rest := by
  rw [utf8_cons, utf8_cons, ← List.append_assoc]
  rfl

theorem Spelling.tokens_eq (long : Text) (c : Char) (v : Bytes) (s : Spelling) :
    s.tokens long c v =
      match s with
      | .longApart => [dashes ++ utf8 long, v]
      | .longJoined => [dashes ++ utf8 long ++ Grammar.equalsSign :: v]
      | .letterApart => [letterToken c, v]
      | .letterJoined => [letterToken c ++ v]
      | .letterEquals => [letterToken c ++ Grammar.equalsSign :: v] := by
  cases s with
  | longApart => rw [tokens, utf8_dashes]
  | longJoined =>
    rw [tokens, List.append_assoc, utf8_dashes, utf8_append, List.append_assoc, List.append_assoc, List.append_assoc]
    rfl
  | letterApart => rw [tokens, utf8_letter, utf8_nil, List.append_nil]
  | letterJoined => rw [tokens, utf8_letter, utf8_nil, List.append_nil]
  | letterEquals =>
    rw [tokens, utf8_letter, List.append_assoc]
    rfl

def AsksForText (t : Bytes) : Prop :=
  t = utf8 "--help".toList ∨ t = utf8 "--version".toList ∨ utf8 "-h".toList <+: t ∨ utf8 "-V".toList <+: t

namespace Grammar

variable {ι : Type} (g : Grammar ι)

theorem valueFault?_eq_none (o : ι) (v : Bytes) :
    g.valueFault? o v = none ↔ v ≠ [] ∧ ((g.spec o).choices = [] ∨ ∃ c ∈ (g.spec o).choices, utf8 c.word = v) := by
  unfold valueFault?
  by_cases hv : v = []
  · simp [hv]
  · have hb : (v == []) = false := by simpa using hv
    simp only [hb, Bool.false_eq_true, if_false]
    cases hc : (g.spec o).choices with
    | nil => simp [hv]
    | cons c cs =>
      by_cases ha : ((c :: cs).any fun c => utf8 c.word == v) = true
      · simp only [ha, if_true, true_iff]
        simp only [List.any_eq_true, beq_iff_eq] at ha
        exact ⟨hv, .inr ha⟩
      · simp only [ha, Bool.false_eq_true, if_false, reduceCtorEq, false_iff]
        simp only [List.any_eq_true, beq_iff_eq] at ha
        rintro ⟨-, h | h⟩
        · cases h
        · exact ha h

variable {g}

theorem Written.fits {o : ι} {v : Option Bytes} {ts : List Bytes} (h : g.Written o v ts) : g.Fits o v := by
  cases h <;> assumption

theorem written_spelling (o : ι) (c : Char) (v : Bytes) (hv : g.Fits o (some v)) (hc : (g.spec o).letter? = some c)
    (hp : IsPlain v) (he : v.head? ≠ some equalsSign) (s : Spelling) :
    g.Written o (some v) (s.tokens (g.spec o).long c v) := by
  rw [Spelling.tokens_eq]
  cases s with
  | longApart => exact .longApart hv hp
  | longJoined => exact .longJoined hv
  | letterApart => exact .letterApart hv hc hp
  | letterEquals => exact .letterEquals hv hc
  | letterJoined =>
    -- An equals sign behind the letter would be taken off, so the value must begin with another byte.
    have hne := ((g.valueFault?_eq_none o v).1 hv.2).1
    cases v with
    | nil => exact absurd rfl hne
    | cons b v => exact .letterJoined hv hc (by simpa using he)

theorem exists_spelling (o : ι) (c : Char) (v : Bytes) (ts : List Bytes) (h : g.Written o (some v) ts)
    (hc : (g.spec o).letter? = some c) : ∃ s : Spelling, s.tokens (g.spec o).long c v = ts := by
  simp only [Spelling.tokens_eq]
  cases h with
  | longApart hv hp => exact ⟨.longApart, rfl⟩
  | longJoined hv => exact ⟨.longJoined, rfl⟩
  | letterApart hv hc' hp =>
    cases hc.symm.trans hc'
    exact ⟨.letterApart, rfl⟩
  | letterJoined hv hc' hb =>
    cases hc.symm.trans hc'
    exact ⟨.letterJoined, rfl⟩
  | letterEquals hv hc' =>
    cases hc.symm.trans hc'
    exact ⟨.letterEquals, rfl⟩

end Grammar

theorem asksForText_iff {ι : Type} (g : Grammar ι) (help version : ι) (hh : g.spec help = helpSpec)
    (hv : g.spec version = versionSpec) (hkh : ∀ o, (g.spec o).kind = .help → o = help)
    (hkv : ∀ o, (g.spec o).kind = .version → o = version) (t : Bytes) : AsksForText t ↔ ∃ i, g.Asks i t := by
  have helpToken : g.longToken help = utf8 "--help".toList := by
    rw [Grammar.longToken, hh]
    rfl
  have versionToken : g.longToken version = utf8 "--version".toList := by
    rw [Grammar.longToken, hv]
    rfl
  constructor
  · rintro (rfl | rfl | ⟨rest, rfl⟩ | ⟨rest, rfl⟩)
    · rw [← helpToken]
      exact ⟨_, .help help (by rw [hh]; rfl)⟩
    · rw [← versionToken]
      exact ⟨_, .version version (by rw [hv]; rfl)⟩
    · exact ⟨_, .helpLetter help rest (by rw [hh]; rfl)⟩
    · exact ⟨_, .versionLetter version rest (by rw [hv]; rfl)⟩
  · rintro ⟨i, h⟩
    cases h with
    | help o hk =>
      rw [hkh o hk, helpToken]
      exact .inl rfl
    | version o hk =>
      rw [hkv o hk, versionToken]
      exact .inr (.inl rfl)
    | helpLetter o rest hk => exact .inr (.inr (.inl ⟨rest, rfl⟩))
    | versionLetter o rest hk => exact .inr (.inr (.inr ⟨rest, rfl⟩))

end Slipway.CommandLine
