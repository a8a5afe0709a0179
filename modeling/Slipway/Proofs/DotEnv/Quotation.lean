import Slipway.Proofs.DotEnv.Additions
set_option autoImplicit false

namespace Slipway.DotEnv

def quotedChar (c : Char) : Text :=
  if c = '\n' then ['\\', 'n'] else if c = '\\' ∨ c = '\x22' ∨ c = '$' then ['\\', c] else [c]

def quotedValue (v : Text) : Text := v.flatMap quotedChar

def assignmentLine (name v : Text) : Text := name ++ '=' :: '\x22' :: (quotedValue v ++ ['\x22'])

structure IsVariable (name : Text) : Prop where
  start : ∃ c rest, name = c :: rest ∧ (c.isAlpha || c == '_') = true
  chars : ∀ c ∈ name, Cursor.isNameChar c = true

inductive Quotes (c : Char) : Text → Prop
  | itself (hfeed : c ≠ '\n') (hslash : c ≠ '\\') (hquote : c ≠ '\x22') (hdollar : c ≠ '$') : Quotes c [c]
  | escaped (x : Char) (hx : ValueState.unescaped? x = some c) (hfeed : x ≠ '\n') : Quotes c ['\\', x]

theorem quotes_quotedChar (c : Char) : Quotes c (quotedChar c) := by
  unfold quotedChar
  by_cases hfeed : c = '\n'
  · rw [if_pos hfeed, hfeed]
    exact .escaped 'n' rfl (by decide)
  rw [if_neg hfeed]
  by_cases hspecial : c = '\\' ∨ c = '\x22' ∨ c = '$'
  · rw [if_pos hspecial]
    rcases hspecial with rfl | rfl | rfl <;> exact .escaped _ rfl (by decide)
  · rw [if_neg hspecial]
    simp only [not_or] at hspecial
    exact .itself hfeed hspecial.1 hspecial.2.1 hspecial.2.2

theorem quotedValue_cons (c : Char) (v : Text) : quotedValue (c :: v) = quotedChar c ++ quotedValue v := rfl

theorem lineFeed_not_mem_quotedValue (v : Text) : '\n' ∉ quotedValue v := by
  induction v with
  | nil => exact List.not_mem_nil
  | cons c v ih =>
    rw [quotedValue_cons, List.mem_append, not_or]
    refine ⟨?_, ih⟩
    have hquotes := quotes_quotedChar c
    generalize quotedChar c = written at hquotes ⊢
    cases hquotes with
    | itself hfeed => simpa using hfeed.symm
    | escaped x _ hfeed => simpa using hfeed.symm

section Names

variable {name : Text} {c : Char}

theorem toNat_of_isNameChar (h : Cursor.isNameChar c = true) : c.toNat < 128 := by
  have hcases : (((c.isUpper = true ∨ c.isLower = true) ∨ c.isDigit = true) ∨ c = '_') ∨ c = '.' := by
    change (c.isUpper || c.isLower || c.isDigit || c == '_' || c == '.') = true at h
    simpa only [Bool.or_eq_true, beq_iff_eq] using h
  rcases hcases with (((hc | hc) | hc) | rfl) | rfl
  · have hrange : 65 ≤ c.toNat ∧ c.toNat ≤ 90 := of_decide_eq_true hc
    omega
  · have hrange : 97 ≤ c.toNat ∧ c.toNat ≤ 122 := by
      obtain ⟨hfirst, hlast⟩ := (Bool.and_eq_true_iff).1 hc
      exact ⟨of_decide_eq_true hfirst, of_decide_eq_true hlast⟩
    omega
  · have hrange : 48 ≤ c.toNat ∧ c.toNat ≤ 57 := Char.isDigit_iff_toNat.1 hc
    omega
  · decide
  · decide

theorem plain_of_isNameChar (h : Cursor.isNameChar c = true) :
    isBlank c = false ∧ Quoting.next .plain c = .plain ∧ c ≠ '#' ∧ (String.utf8EncodeChar c).head? ≠ some 0xEF := by
  -- A character of a name is ASCII, so it is one of few.
  have hascii : ∀ n < 128, Cursor.isNameChar (Char.ofNat n) = true →
      isBlank (Char.ofNat n) = false ∧ Quoting.next .plain (Char.ofNat n) = .plain ∧ Char.ofNat n ≠ '#' ∧
        (String.utf8EncodeChar (Char.ofNat n)).head? ≠ some 0xEF := by decide +kernel
  have hcode := hascii c.toNat (toNat_of_isNameChar h)
  rw [Char.ofNat_toNat] at hcode
  exact hcode h

end Names

section Lines

open Quoting

theorem through_name {name : Text} (h : ∀ c ∈ name, Cursor.isNameChar c = true) (rest : Text) :
    through .plain (name ++ rest) = (name ++ (through .plain rest).1, (through .plain rest).2) := by
  induction name with
  | nil => rfl
  | cons c name ih =>
    obtain ⟨hc, hname⟩ := List.forall_mem_cons.1 h
    obtain ⟨-, hnext, -⟩ := plain_of_isNameChar hc
    simp [through, hnext, ih hname]

/-- The quotes stay open over a value: each character keeps them open, or escapes the next and goes back. -/
theorem through_quotedValue (v rest : Text) :
    through .weak (quotedValue v ++ rest) = (quotedValue v ++ (through .weak rest).1, (through .weak rest).2) := by
  induction v with
  | nil => rfl
  | cons c v ih =>
    rw [quotedValue_cons, List.append_assoc, List.append_assoc]
    have hquotes := quotes_quotedChar c
    generalize quotedChar c = written at hquotes ⊢
    cases hquotes with
    | itself _ hslash hquote => simp [through, next, hslash, hquote, ih]
    | escaped x => simp [through, next, ih]

theorem physicalLines_line {bs : Bytes} (h : 0x0A ∉ bs) : physicalLines (bs ++ [0x0A]) = [bs ++ [0x0A]] := by
  induction bs with
  | nil => rfl
  | cons b bs ih =>
    simp only [List.mem_cons, not_or] at h
    rw [List.cons_append, physicalLines, if_neg (by simpa using Ne.symm h.1), ih h.2]

variable {name : Text} (hname : IsVariable name) (v : Text)
include hname

theorem lineFeed_not_mem_assignmentLine : '\n' ∉ assignmentLine name v := by
  have hnot : '\n' ∉ name := fun h => absurd (hname.chars _ h) (by decide)
  simp [assignmentLine, hnot, lineFeed_not_mem_quotedValue]

theorem through_assignmentLine :
    through .plain (assignmentLine name v ++ ['\n']) = (assignmentLine name v ++ ['\n'], some .plain) := by
  have hclosed : through .weak ['\x22', '\n'] = (['\x22', '\n'], some .plain) := by decide
  have hvalue := through_quotedValue v ['\x22', '\n']
  rw [hclosed] at hvalue
  have hrest : through .plain ('=' :: '\x22' :: (quotedValue v ++ ['\x22', '\n'])) =
      ('=' :: '\x22' :: (quotedValue v ++ ['\x22', '\n']), some .plain) := by
    have hopened : next (next .plain '=') '\x22' = .weak := by decide
    simp [through, hopened, hvalue]
  simp [assignmentLine, through_name hname.chars, hrest]

theorem withoutMark_assignmentLine :
    withoutMark (utf8 (assignmentLine name v ++ ['\n'])) = utf8 (assignmentLine name v ++ ['\n']) := by
  obtain ⟨c, rest, rfl, hstart⟩ := hname.start
  obtain ⟨-, -, -, hbyte⟩ := plain_of_isNameChar (hname.chars c List.mem_cons_self)
  refine if_neg fun hmark => ?_
  rw [assignmentLine, List.cons_append, List.cons_append, utf8_cons] at hmark
  cases hc : String.utf8EncodeChar c with
  | nil => exact absurd hc (by simp)
  | cons b bs =>
    have hb : b ≠ 0xEF := by simpa [hc] using hbyte
    rw [hc, List.cons_append, byteOrderMark, List.isPrefixOf, Bool.and_eq_true, beq_iff_eq] at hmark
    exact hb hmark.1.symm

theorem logicalLines_assignmentLine :
    logicalLines (utf8 (assignmentLine name v ++ ['\n'])) = [.ok (assignmentLine name v)] := by
  have hfeed : 0x0A ∉ utf8 (assignmentLine name v) := by
    rw [ascii_mem_utf8_iff (by decide)]
    exact lineFeed_not_mem_assignmentLine hname v
  have hlines : physicalLines (utf8 (assignmentLine name v ++ ['\n'])) = [utf8 (assignmentLine name v ++ ['\n'])] := by
    rw [utf8_append]
    exact physicalLines_line hfeed
  rw [logicalLines, withoutMark_assignmentLine hname, hlines, List.map_singleton, decode?_utf8, logicalFrom]
  obtain ⟨c, rest, rfl, hstart⟩ := hname.start
  obtain ⟨hblank, -, hhash, -⟩ := plain_of_isNameChar (hname.chars c List.mem_cons_self)
  have hhead : (trimStart ([] ++ (assignmentLine (c :: rest) v ++ ['\n']))).head? ≠ some '#' := by
    simpa [assignmentLine, trimStart, hblank] using hhash
  rw [if_neg hhead, through_assignmentLine hname]
  simp [logicalFrom, chomp, assignmentLine]

end Lines

section Values

variable {vars : Text → Text} {name : Text}

open ValueState

theorem run_quotedValue (v rest : Text) (i : Nat) (output : Text) :
    run vars i (quotedValue v ++ rest) ⟨.weak, false, false, .none, [], output⟩ =
      run vars (i + (quotedValue v).length) rest ⟨.weak, false, false, .none, [], output ++ v⟩ := by
  induction v generalizing i output with
  | nil => simp [quotedValue]
  | cons c v ih =>
    rw [quotedValue_cons, List.append_assoc, List.length_append, ← Nat.add_assoc]
    have hquotes := quotes_quotedChar c
    generalize quotedChar c = written at hquotes ⊢
    cases hquotes with
    | itself _ hslash hquote hdollar => simp [run, plain, put, hslash, hquote, hdollar, ih]
    | escaped x hx => simp [run, plain, put, hx, ih]

theorem readValue_quotedValue (vars : Text → Text) (v : Text) :
    readValue vars ('\x22' :: (quotedValue v ++ ['\x22'])) = .ok (v ++ vars []) := by
  have hrun : run vars 0 ('\x22' :: (quotedValue v ++ ['\x22'])) .start =
      .ok ⟨.none, false, false, .none, [], v⟩ := by
    simp [run, start, plain, run_quotedValue]
  simp [readValue, hrun, substitute]

theorem name?_assignment (hname : IsVariable name) (rest : Text) :
    Cursor.name? ⟨name ++ '=' :: rest, 0⟩ = some (name, ⟨'=' :: rest, name.length⟩) := by
  have htake : (name ++ '=' :: rest).takeWhile Cursor.isNameChar = name := by
    rw [List.takeWhile_append_of_pos hname.chars, List.takeWhile_cons_of_neg (by decide), List.append_nil]
  have hdrop : (name ++ '=' :: rest).dropWhile Cursor.isNameChar = '=' :: rest := by
    rw [List.dropWhile_append_of_pos hname.chars, List.dropWhile_cons_of_neg (by decide)]
  obtain ⟨c, more, rfl, hstart⟩ := hname.start
  rw [List.cons_append] at htake hdrop ⊢
  simp only [Cursor.name?, hstart, if_true, htake, hdrop, Nat.zero_add]

theorem readName_assignment (hname : IsVariable name) (line rest : Text) :
    readName line ⟨name ++ '=' :: rest, 0⟩ = .ok (name, ⟨rest, name.length + 1⟩) := by
  have hskip : Cursor.skipBlanks ⟨'=' :: rest, name.length⟩ = ⟨'=' :: rest, name.length⟩ := by
    have hblank : ¬ isBlank '=' = true := by decide
    simp [Cursor.skipBlanks, hblank]
  simp [readName, name?_assignment hname, hskip, Cursor.equals?, bind, Except.bind, pure, Except.pure]

theorem readLine_assignmentLine (hname : IsVariable name) (hvars : vars [] = []) (v : Text) :
    readLine vars (assignmentLine name v) = .ok (some ⟨name, some v⟩) := by
  have hquote : ¬ isBlank '\x22' = true := by decide
  have htrim : trimEnd (assignmentLine name v) = assignmentLine name v := by
    simp [trimEnd, assignmentLine, hquote]
  have hstart : Cursor.skipBlanks ⟨assignmentLine name v, 0⟩ = ⟨assignmentLine name v, 0⟩ := by
    obtain ⟨c, rest, rfl, -⟩ := hname.start
    obtain ⟨hblank, -⟩ := plain_of_isNameChar (hname.chars c List.mem_cons_self)
    simp [Cursor.skipBlanks, assignmentLine, hblank]
  have hnot : isEmptyOrComment (assignmentLine name v) = false := by
    obtain ⟨c, rest, rfl, -⟩ := hname.start
    obtain ⟨-, -, hhash, -⟩ := plain_of_isNameChar (hname.chars c List.mem_cons_self)
    simpa [isEmptyOrComment, assignmentLine] using hhash
  have hvalue (pos : Nat) : Cursor.skipBlanks ⟨'\x22' :: (quotedValue v ++ ['\x22']), pos⟩ =
      ⟨'\x22' :: (quotedValue v ++ ['\x22']), pos⟩ := by
    simp [Cursor.skipBlanks, hquote]
  have hread := readValue_quotedValue vars v
  rw [hvars, List.append_nil] at hread
  have hnonempty : isEmptyOrComment ('\x22' :: (quotedValue v ++ ['\x22'])) = false := rfl
  have hassigned : readName (assignmentLine name v) ⟨assignmentLine name v, 0⟩ = .ok (name, ⟨_, name.length + 1⟩) :=
    readName_assignment hname _ _
  simp only [readLine, htrim, hstart, hnot, hassigned]
  simp [bind, Except.bind, hvalue, hnonempty, hread, pure, Except.pure]

end Values

section Files

variable {e : Env} {content : Bytes} {name v : Text}

def Says (e : Env) (content : Bytes) (name v : Text) : Prop :=
  ∃ line a, logicalLines content = [.ok line] ∧ readLine (valueOf e []) line = .ok (some a) ∧ a.name = name ∧
    a.text = v

theorem says_assignmentLine (hname : IsVariable name) (hunnamed : e.get? [] = none) (v : Text) :
    Says e (utf8 (assignmentLine name v ++ ['\n'])) name v := by
  have hvars : valueOf e [] [] = [] := by
    have hentry : entryValue? e [] = none := by
      change e.text? [] = none
      rw [Env.text?, utf8_nil, hunnamed, Option.bind_none]
    rw [valueOf, hentry]
    rfl
  exact ⟨_, _, logicalLines_assignmentLine hname v, readLine_assignmentLine hname hvars v, rfl, rfl⟩

theorem Says.applyContent (h : Says e content name v) (hunset : e.get? (utf8 name) = none) (hclean : '\x00' ∉ v) :
    applyContent content e = .ok (e.set (utf8 name) (utf8 v), none) := by
  obtain ⟨line, a, hlines, hread, rfl, rfl⟩ := h
  have hnew : ¬ (e.text? a.name).isSome = true := by simp [Env.text?, hunset]
  rw [DotEnv.applyContent, hlines, applyLines, hread]
  simp only [assign_added hnew, if_neg hclean, applyLines]
  rfl

end Files

end Slipway.DotEnv
