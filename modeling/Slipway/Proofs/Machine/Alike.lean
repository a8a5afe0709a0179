import Slipway.Machine.Files
import Slipway.Proofs.Run.Enter
import Slipway.Settings.Read
set_option autoImplicit false

namespace Slipway

/-- Machines with the same files, the same current directory and the same environment. -/
structure Machine.Alike (m m' : Machine) : Prop where
  tree : m'.tree = m.tree
  place : m'.place = m.place
  env : m'.env = m.env

namespace Machine

variable {m m' m'' : Machine}

theorem locate_congr (ht : m'.tree = m.tree) (hp : m'.place = m.place) (path : Bytes) :
    m'.locate path = m.locate path := by rw [locate, locate, ht, hp]

theorem isDir_congr (ht : m'.tree = m.tree) (hp : m'.place = m.place) (path : Bytes) :
    m'.isDir path = m.isDir path := by rw [isDir, isDir, locate_congr ht hp]

theorem isFile_congr (ht : m'.tree = m.tree) (hp : m'.place = m.place) (path : Bytes) :
    m'.isFile path = m.isFile path := by rw [isFile, isFile, locate_congr ht hp]

theorem canonical_congr (ht : m'.tree = m.tree) (hp : m'.place = m.place) (path : Bytes) :
    m'.canonical path = m.canonical path := by rw [canonical, canonical, isAdrift, isAdrift, ht, hp]

theorem Alike.refl (m : Machine) : Alike m m := ⟨rfl, rfl, rfl⟩

theorem Alike.symm (h : Alike m m') : Alike m' m := ⟨h.tree.symm, h.place.symm, h.env.symm⟩

theorem Alike.trans (h : Alike m m') (h' : Alike m' m'') : Alike m m'' :=
  ⟨h'.tree.trans h.tree, h'.place.trans h.place, h'.env.trans h.env⟩

theorem Alike.congr {m₁ m₁' : Machine} (h : Alike m m') (h₁ : Alike m m₁) (h' : Alike m' m₁') : Alike m₁ m₁' :=
  h₁.symm.trans (h.trans h')

theorem alike_emit (m : Machine) (e : Log.Event) : Alike m (m.emit e) := ⟨tree_emit m e, place_emit m e, env_emit m e⟩

theorem Alike.locate (h : Alike m m') (path : Bytes) : m'.locate path = m.locate path :=
  locate_congr h.tree h.place path

theorem Alike.currentDir? (h : Alike m m') : m'.currentDir? = m.currentDir? := by
  rw [Machine.currentDir?, Machine.currentDir?, h.place]

/-- Answers that agree: both the same failure, or machines that are alike. -/
inductive AlikeAnswers {ε : Type} : Except ε Machine → Except ε Machine → Prop
  | error (f : ε) : AlikeAnswers (.error f) (.error f)
  | ok {m m' : Machine} (h : Alike m m') : AlikeAnswers (.ok m) (.ok m')

theorem AlikeAnswers.eq_error {ε : Type} {x : Except ε Machine} {f : ε} (h : AlikeAnswers x (.error f)) :
    x = .error f := by
  cases h
  rfl

theorem AlikeAnswers.exists_ok {ε : Type} {x : Except ε Machine} (h : AlikeAnswers x (.ok m')) :
    ∃ m, x = .ok m ∧ Alike m m' := by
  cases h with
  | ok h => exact ⟨_, rfl, h⟩

theorem AlikeAnswers.trans {ε : Type} {x y z : Except ε Machine} (h : AlikeAnswers x y) (h' : AlikeAnswers y z) :
    AlikeAnswers x z := by
  cases h with
  | error f => exact h'
  | ok h =>
    cases h' with
    | ok h' => exact .ok (h.trans h')

theorem Alike.changeDir (h : Alike m m') (path : Bytes) : AlikeAnswers (m.changeDir path) (m'.changeDir path) := by
  unfold Machine.changeDir
  rw [h.locate]
  split
  · exact .ok ⟨h.tree, rfl, h.env⟩
  · exact .error _
  · exact .error _
  · exact .error _

theorem Alike.enter (h : Alike m m') (dir : Bytes) :
    AlikeAnswers ((Run.enter m dir).map Prod.snd) ((Run.enter m' dir).map Prod.snd) := by
  unfold Run.enter
  rw [h.currentDir?]
  cases m.currentDir? with
  | none => exact .error _
  | some here =>
    have hc := h.changeDir dir
    dsimp only
    generalize m.changeDir dir = moved at hc ⊢
    generalize m'.changeDir dir = moved' at hc ⊢
    cases hc with
    | error c => exact .error _
    | ok hc => exact .ok (hc.congr (alike_emit _ _) (alike_emit _ _))

theorem Alike.makeDir (h : Alike m m') (path : Bytes) : AlikeAnswers (m.makeDir path) (m'.makeDir path) := by
  unfold Machine.makeDir
  rw [h.tree, h.place]
  split
  · exact .ok ⟨rfl, rfl, h.env⟩
  · exact .error _
  · exact .error _

theorem Alike.removeAll (h : Alike m m') (path : Bytes) : AlikeAnswers (m.removeAll path) (m'.removeAll path) := by
  unfold Machine.removeAll
  rw [h.tree, h.place]
  split
  · split
    · exact .error _
    · exact .ok ⟨rfl, rfl, h.env⟩
  · exact .ok ⟨rfl, rfl, h.env⟩
  · exact .ok ⟨rfl, rfl, h.env⟩
  · exact .ok ⟨rfl, rfl, h.env⟩
  · exact .error _
  · exact .error _

end Machine

open Machine

variable {m m' a : Machine}

theorem Settings.alike_complain (m : Machine) (c : Option DotEnv.Complaint) : Alike m (complain m c) := by
  cases c with
  | none => exact .refl m
  | some c => exact alike_emit m _

theorem DotEnv.searchIn_congr (ht : m'.tree = m.tree) (hp : m'.place = m.place) (dirs : List Bytes) :
    searchIn m' dirs = searchIn m dirs := by
  induction dirs with
  | nil => rfl
  | cons d ds ih => simp only [searchIn, locate_congr ht hp, ih]

theorem DotEnv.search_congr (ht : m'.tree = m.tree) (hp : m'.place = m.place) : search m' = search m := by
  simp only [search, currentDir?, hp, searchIn_congr ht hp]

namespace Machine.Alike

variable (h : Alike m m')
include h

theorem search : DotEnv.search m' = DotEnv.search m := DotEnv.search_congr h.tree h.place

theorem load {c : Option DotEnv.Complaint} (hl : DotEnv.load m = .ok (a, c)) :
    ∃ a', DotEnv.load m' = .ok (a', c) ∧ Alike a a' := by
  unfold DotEnv.load at hl ⊢
  rw [h.search, h.env]
  cases hs : DotEnv.search m with
  | nowhere =>
    simp only [hs] at hl ⊢
    cases hl
    exact ⟨m', rfl, h⟩
  | failed cause =>
    simp only [hs] at hl ⊢
    cases hl
    exact ⟨m', rfl, h⟩
  | found content =>
    simp only [hs] at hl ⊢
    cases ha : DotEnv.applyContent content m.env with
    | error crash => simp [ha] at hl
    | ok r =>
      simp only [ha] at hl ⊢
      cases hl
      exact ⟨_, rfl, h.tree, h.place, rfl⟩

theorem read {base : Bytes} {s : Settings} (hr : Settings.read base m = .ok (s, a)) :
    ∃ a', Settings.read base m' = .ok (s, a') ∧ Alike a a' := by
  unfold Settings.read at hr ⊢
  cases hl : DotEnv.load m with
  | error crash => simp [hl] at hr
  | ok r =>
    obtain ⟨loaded, c⟩ := r
    obtain ⟨loaded', hl', hlike⟩ := h.load hl
    have hcomplain : Alike (Settings.complain loaded c) (Settings.complain loaded' c) :=
      hlike.congr (Settings.alike_complain loaded c) (Settings.alike_complain loaded' c)
    simp only [hl, hl', hcomplain.env] at hr ⊢
    cases ht : (Settings.complain loaded c).env.texts with
    | error b => simp [ht] at hr
    | ok vars =>
      simp only [ht] at hr ⊢
      obtain ⟨rfl, rfl⟩ := Prod.mk.inj (Except.ok.inj hr)
      exact ⟨_, rfl, hcomplain.congr (alike_emit _ _) (alike_emit _ _)⟩

end Machine.Alike

end Slipway
