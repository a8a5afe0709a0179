import Slipway.CommandLine.Scan
import Slipway.Text.Utf8.RoundTrip
set_option autoImplicit false

/-!
What a token of a command line is, by its bytes alone.  Where names and letters tell a grammar's options apart, every
token has one of six shapes, and what reading it does follows from its shape and from the kind of its option; a token
of no shape is refused whatever stands before it.
-/

namespace Slipway.CommandLine

def IsPlain (t : Bytes) : Prop := t = [Grammar.hyphen] ∨ t.head? ≠ some Grammar.hyphen

def dashes : Bytes := [Grammar.hyphen, Grammar.hyphen]

def letterToken (c : Char) : Bytes := Grammar.hyphen :: String.utf8EncodeChar c

def Kind.isValue : Kind → Bool
  | .value .. => true
  | _ => false

namespace Grammar

variable {ι : Type}

def longToken (g : Grammar ι) (o : ι) : Bytes := dashes ++ utf8 (g.spec o).long

/-- Names and letters tell the options apart, and a name can be told from the value behind it. -/
structure Clear (g : Grammar ι) : Prop where
  listed : ∀ o, o ∈ g.all
  long_injective : ∀ o o', (g.spec o).long = (g.spec o').long → o = o'
  long_ne_nil : ∀ o, utf8 (g.spec o).long ≠ []
  long_equals : ∀ o, ∀ b ∈ utf8 (g.spec o).long, (b != equalsSign) = true
  letter_injective : ∀ o o', (g.spec o).letter?.isSome → (g.spec o).letter? = (g.spec o').letter? → o = o'
  letter_ascii : ∀ o c, (g.spec o).letter? = some c → 0 < c.toNat ∧ c.toNat < 0x80 ∧ c.toNat ≠ hyphen.toNat

theorem long_of_byLong? (g : Grammar ι) (name : Bytes) (o : ι) (h : g.byLong? name = some o) :
    utf8 (g.spec o).long = name := by
  have hp := List.find?_some h
  exact eq_of_beq hp

theorem letter_of_byLetter? (g : Grammar ι) (c : Char) (o : ι) (h : g.byLetter? c = some o) :
    (g.spec o).letter? = some c := by
  have hp := List.find?_some h
  exact eq_of_beq hp

theorem byLong?_long (g : Grammar ι) (hg : g.Clear) (o : ι) : g.byLong? (utf8 (g.spec o).long) = some o := by
  cases h : g.byLong? (utf8 (g.spec o).long) with
  | none =>
    have hno := List.find?_eq_none.1 h o (hg.listed o)
    simp at hno
  | some o' =>
    have heq := g.long_of_byLong? _ o' h
    rw [hg.long_injective o' o (utf8_injective heq)]

theorem byLetter?_letter (g : Grammar ι) (hg : g.Clear) (o : ι) (c : Char) (hc : (g.spec o).letter? = some c) :
    g.byLetter? c = some o := by
  cases h : g.byLetter? c with
  | none =>
    have hno := List.find?_eq_none.1 h o (hg.listed o)
    simp [hc] at hno
  | some o' =>
    have heq := g.letter_of_byLetter? c o' h
    rw [hg.letter_injective o' o (by simp [heq]) (by rw [heq, hc])]

theorem splitAttached_alone (name : Bytes) (h : ∀ b ∈ name, (b != equalsSign) = true) :
    splitAttached name = (name, none) := by
  have hd : name.dropWhile (· != equalsSign) = [] := by
    rw [← List.append_nil name, List.dropWhile_append_of_pos h]
    rfl
  simp only [splitAttached, hd]

theorem splitAttached_attached (name v : Bytes) (h : ∀ b ∈ name, (b != equalsSign) = true) :
    splitAttached (name ++ equalsSign :: v) = (name, some v) := by
  have hd : (name ++ equalsSign :: v).dropWhile (· != equalsSign) = equalsSign :: v := by
    rw [List.dropWhile_append_of_pos h]
    simp
  have ht : (name ++ equalsSign :: v).takeWhile (· != equalsSign) = name := by
    rw [List.takeWhile_append_of_pos h]
    simp
  simp only [splitAttached, hd, ht]

theorem splitAttached_cases (bs : Bytes) :
    splitAttached bs = (bs, none) ∨ ∃ name v, bs = name ++ equalsSign :: v ∧ splitAttached bs = (name, some v) := by
  have hb := List.takeWhile_append_dropWhile (p := (· != equalsSign)) (l := bs)
  cases hd : bs.dropWhile (· != equalsSign) with
  | nil => simp only [splitAttached, hd, true_or]
  | cons b v =>
    have hne : bs.dropWhile (· != equalsSign) ≠ [] := by simp [hd]
    have heq := List.head_dropWhile_not (· != equalsSign) hne
    simp only [hd, List.head_cons, bne_eq_false_iff_eq] at heq
    rw [hd, heq] at hb
    exact .inr ⟨_, v, hb.symm, by simp only [splitAttached, hd]⟩

theorem firstChar?_utf8EncodeChar (c : Char) (rest : Bytes) :
    firstChar? (String.utf8EncodeChar c ++ rest) = some (c, rest) := by
  simp only [firstChar?, pieces, piecesFrom_utf8EncodeChar, List.drop_left]

theorem eq_append_of_firstChar? (bs rest : Bytes) (c : Char) (h : firstChar? bs = some (c, rest)) :
    bs = String.utf8EncodeChar c ++ rest := by
  unfold firstChar? at h
  split at h
  next d ps hp =>
    simp only [Option.some.injEq, Prod.mk.injEq] at h
    obtain ⟨rfl, rfl⟩ := h
    obtain ⟨rest, rfl, -⟩ := piecesFrom_char hp
    rw [List.drop_left]
  · cases h

section Reading

variable [BEq ι] (g : Grammar ι)

theorem readToken_plain (p : Progress ι) (t : Bytes) (h : IsPlain t) : g.readToken p t = readPlain p t := by
  unfold readToken
  split
  next a b rest =>
    have ha : (a != hyphen) = true := by
      obtain h | h := h
      · cases h
      · simpa using h
    simp only [ha, if_true]
  · rfl

theorem readToken_dashes (p : Progress ι) : g.readToken p dashes = .optionsEnd := rfl

theorem readToken_long (p : Progress ι) (rest name : Bytes) (attached : Option Bytes) (hr : rest ≠ [])
    (hs : splitAttached rest = (name, attached)) : g.readToken p (dashes ++ rest) = g.readLong p name attached := by
  have hr' : (rest == []) = false := by simpa using hr
  simp only [dashes, List.cons_append, List.nil_append, readToken, bne_self_eq_false, Bool.false_eq_true, if_false, hr',
    hs]

theorem readToken_letters (p : Progress ι) (b : UInt8) (rest : Bytes) (hb : b ≠ hyphen) :
    g.readToken p (hyphen :: b :: rest) = g.readLetters p (b :: rest) := by
  have hb' : (b != hyphen) = true := by simpa using hb
  simp only [readToken, bne_self_eq_false, Bool.false_eq_true, if_false, hb', if_true]

theorem readToken_longToken (hg : g.Clear) (p : Progress ι) (o : ι) :
    g.readToken p (g.longToken o) = g.readLong p (utf8 (g.spec o).long) none :=
  g.readToken_long p _ _ _ (hg.long_ne_nil o) (splitAttached_alone _ (hg.long_equals o))

theorem readToken_longValue (hg : g.Clear) (p : Progress ι) (o : ι) (v : Bytes) :
    g.readToken p (g.longToken o ++ equalsSign :: v) = g.readLong p (utf8 (g.spec o).long) (some v) := by
  rw [longToken, List.append_assoc]
  exact g.readToken_long p _ _ _ (by simp) (splitAttached_attached _ v (hg.long_equals o))

theorem readToken_letterToken (hg : g.Clear) (p : Progress ι) (o : ι) (c : Char) (rest : Bytes)
    (hc : (g.spec o).letter? = some c) :
    g.readToken p (letterToken c ++ rest) = g.readLetters p (String.utf8EncodeChar c ++ rest) := by
  obtain ⟨h0, h1, h2⟩ := hg.letter_ascii o c hc
  have hle : c.toNat ≤ 127 := by omega
  have he : String.utf8EncodeChar c = [UInt8.ofNat c.toNat] := by
    simp [String.utf8EncodeChar, hle]
  have hne : UInt8.ofNat c.toNat ≠ hyphen := by
    intro h
    have hn := congrArg UInt8.toNat h
    rw [UInt8.toNat_ofNat'] at hn
    omega
  simp only [letterToken, he, List.cons_append, List.nil_append]
  exact g.readToken_letters p _ rest hne

inductive Shape : Bytes → Prop
  | plain {t : Bytes} (h : IsPlain t) : Shape t
  | dashes : Shape dashes
  | long (o : ι) : Shape (g.longToken o)
  | longValue (o : ι) (v : Bytes) : Shape (g.longToken o ++ equalsSign :: v)
  | letters (o : ι) (c : Char) (rest : Bytes) (hc : (g.spec o).letter? = some c) : Shape (letterToken c ++ rest)
  | unknown {t : Bytes} (h : ∀ p, ∃ f, g.readToken p t = .finished (.refused f)) : Shape t

theorem shape_long (rest : Bytes) (hr : rest ≠ []) : g.Shape (Slipway.CommandLine.dashes ++ rest) := by
  have hread : ∃ name attached, splitAttached rest = (name, attached) := ⟨_, _, rfl⟩
  obtain ⟨name, attached, hs⟩ := hread
  cases hn : g.byLong? name with
  | none =>
    refine .unknown fun p => ⟨g.unknownLong p name, ?_⟩
    rw [g.readToken_long p rest name attached hr hs]
    simp only [readLong, hn]
  | some o =>
    have hname := g.long_of_byLong? name o hn
    obtain halone | ⟨name', v, hrest, hv⟩ := splitAttached_cases rest
    · rw [hs] at halone
      cases halone
      rw [← hname]
      exact .long o
    · rw [hs] at hv
      cases hv
      rw [hrest, ← hname, ← List.append_assoc]
      exact .longValue o v

theorem shape_letters (b : UInt8) (rest : Bytes) (hb : b ≠ hyphen) :
    g.Shape (hyphen :: b :: rest) := by
  cases hf : firstChar? (b :: rest) with
  | none =>
    refine .unknown fun p => ⟨.unexpected ('-' :: lossy (b :: rest)) none [], ?_⟩
    rw [g.readToken_letters p b rest hb]
    simp only [readLetters, hf]
  | some r =>
    obtain ⟨c, more⟩ := r
    cases hl : g.byLetter? c with
    | none =>
      refine .unknown fun p => ⟨.unexpected ['-', c] none [], ?_⟩
      rw [g.readToken_letters p b rest hb]
      simp only [readLetters, hf, hl]
    | some o =>
      have hc := g.letter_of_byLetter? c o hl
      rw [eq_append_of_firstChar? _ more c hf]
      exact .letters o c more hc

theorem shape (t : Bytes) : g.Shape t := by
  match t with
  | [] => exact .plain (.inr (by simp))
  | [a] =>
    by_cases ha : a = hyphen
    · exact .plain (.inl (by rw [ha]))
    · exact .plain (.inr (by simpa using ha))
  | a :: b :: rest =>
    by_cases ha : a = hyphen
    · subst ha
      by_cases hb : b = hyphen
      · subst hb
        by_cases hr : rest = []
        · subst hr
          exact .dashes
        · exact g.shape_long rest hr
      · exact g.shape_letters b rest hb
    · exact .plain (.inr (by simpa using ha))

end Reading

end Grammar

end Slipway.CommandLine
