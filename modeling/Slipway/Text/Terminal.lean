import Slipway.Text.Basic
set_option autoImplicit false

/-!
Text without what a terminal would act on instead of showing it.  Escape sequences, control sequences and control
strings are left out with all they span, and so are control characters on their own, except those that only move
on in the text.  Main statements: what is left is part of the text in its order (`visible_sublist`) and shows as
itself (`isShown_of_mem_visible`), and text of such characters loses nothing (`visible_eq_self`).
-/

namespace Slipway.Terminal

/-- The part of a device control string's head that was met last. -/
inductive Head
  | entry
  | parameter
  | intermediate
deriving DecidableEq

inductive Mode
  | plain
  | escape
  /-- Inside an escape sequence of more than one character. -/
  | escapeTail
  | controlSequence
  | deviceHead (part : Head)
  | string
  /-- Inside an operating system command, which the bell ends. -/
  | command
deriving DecidableEq

def isSpacing (n : Nat) : Bool := n == 0x09 || n == 0x0A || n == 0x0C || n == 0x0D

def isControl (n : Nat) : Bool := n < 0x20 || n == 0x7F

def isShown (c : Char) : Bool := isSpacing c.toNat || !isControl c.toNat

def afterEscape (n : Nat) : Mode :=
  if n < 0x30 then .escapeTail
  else if n == 0x5B then .controlSequence
  else if n == 0x5D then .command
  else if n == 0x50 then .deviceHead .entry
  else if n == 0x58 || n == 0x5E || n == 0x5F then .string
  else .plain

/-- Parameters come before intermediate characters, and marks only before the parameters; a head out of this order
begins the string, too. -/
def afterHead (part : Head) (n : Nat) : Mode :=
  if n < 0x30 then .deviceHead .intermediate
  else if n < 0x3C then if part = .intermediate then .string else .deviceHead .parameter
  else if n < 0x40 then if part = .entry then .deviceHead .parameter else .string
  else .string

/-- A character below U+0080: the mode after it, and whether it is shown.  A sequence gives way to a spacing
character, and every mode to cancel, substitute and escape. -/
def Mode.next (m : Mode) (n : Nat) : Mode × Bool :=
  if n == 0x18 || n == 0x1A then (.plain, false)
  else if n == 0x1B then (.escape, false)
  else match m with
    | .plain => (.plain, isSpacing n || !isControl n)
    | .string => (.string, false)
    | .command => (if n == 0x07 then .plain else .command, false)
    | .deviceHead part => (if isControl n then .deviceHead part else afterHead part n, false)
    | .escape => if isSpacing n then (.plain, true) else (if isControl n then .escape else afterEscape n, false)
    | .escapeTail =>
      if isSpacing n then (.plain, true) else (if isControl n || n < 0x30 then .escapeTail else .plain, false)
    | .controlSequence =>
      if isSpacing n then (.plain, true) else (if isControl n || n < 0x40 then .controlSequence else .plain, false)

/-- The string terminator.  It counts as a byte, wherever it stands in a character's encoding. -/
def terminator : UInt8 := 0x9C

def Mode.nextWide (m : Mode) (c : Char) : Mode × Bool :=
  match m with
  | .plain => (.plain, true)
  | .string => (if (String.utf8EncodeChar c).elem terminator then .plain else .string, false)
  | m => (m, false)

def Mode.step (m : Mode) (c : Char) : Mode × Bool := if c.toNat < 0x80 then m.next c.toNat else m.nextWide c

def visibleFrom : Mode → Text → Text
  | _, [] => []
  | m, c :: cs =>
    match m.step c with
    | (m', true) => c :: visibleFrom m' cs
    | (m', false) => visibleFrom m' cs

def visible (t : Text) : Text := visibleFrom .plain t

theorem isShown_of_next {m m' : Mode} {n : Nat} (h : m.next n = (m', true)) :
    (isSpacing n || !isControl n) = true := by
  unfold Mode.next at h
  split at h
  · simp at h
  · split at h
    · simp at h
    · cases m <;> simp at h
      case plain => simpa using h.2
      all_goals
        split at h
        · simp [*]
        · simp at h

theorem isShown_of_step {m m' : Mode} {c : Char} (h : m.step c = (m', true)) : isShown c = true := by
  unfold Mode.step at h
  split at h
  · exact isShown_of_next h
  · simp [isShown, isControl]
    omega

theorem isShown_of_mem_visibleFrom (m : Mode) (t : Text) : ∀ c ∈ visibleFrom m t, isShown c = true := by
  induction t generalizing m with
  | nil => simp [visibleFrom]
  | cons d ds ih =>
    unfold visibleFrom
    split
    · rename_i m' h
      simp only [List.mem_cons]
      rintro c (rfl | hc)
      · exact isShown_of_step h
      · exact ih m' c hc
    · exact ih _

theorem visibleFrom_sublist (m : Mode) (t : Text) : (visibleFrom m t).Sublist t := by
  induction t generalizing m with
  | nil => exact .slnil
  | cons c cs ih =>
    unfold visibleFrom
    split
    · exact (ih _).cons_cons c
    · exact (ih _).cons c

theorem visible_sublist (t : Text) : (visible t).Sublist t := visibleFrom_sublist .plain t

theorem isShown_of_mem_visible {t : Text} {c : Char} (h : c ∈ visible t) : isShown c = true :=
  isShown_of_mem_visibleFrom .plain t c h

theorem step_plain {c : Char} (h : isShown c = true) : Mode.plain.step c = (.plain, true) := by
  unfold Mode.step
  split
  · unfold Mode.next
    have hc := h
    simp only [isShown, isSpacing, isControl] at hc
    have h1 : ¬ (c.toNat = 0x18 ∨ c.toNat = 0x1A) := by rintro (h | h) <;> simp [h] at hc
    have h2 : c.toNat ≠ 0x1B := by intro h; simp [h] at hc
    simp [not_or.1 h1, h2]
    simpa [isShown] using h
  · rfl

theorem visible_eq_self {t : Text} (h : ∀ c ∈ t, isShown c = true) : visible t = t := by
  unfold visible
  induction t with
  | nil => rfl
  | cons c cs ih =>
    have hc := step_plain (h c (by simp))
    simp only [visibleFrom, hc]
    rw [ih fun d hd => h d (by simp [hd])]

example : visible "a\x1b[1;31mb\x07c\x1b]0;t\x07d\ne".toList = "abcd\ne".toList := by decide

end Slipway.Terminal
