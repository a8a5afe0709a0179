import Slipway.Proofs.DotEnv.Characters
import Slipway.Settings.Read
set_option autoImplicit false

namespace Slipway

def IsText (bs : Bytes) : Prop := ∃ t, bs = utf8 t

theorem isText_utf8 (t : Text) : IsText (utf8 t) := ⟨t, rfl⟩

def Env.ofTexts (vars : List (Text × Text)) : Env := vars.map fun b => (utf8 b.1, utf8 b.2)

theorem Env.texts_eq_ok_iff {e : Env} {vars : List (Text × Text)} : e.texts = .ok vars ↔ e = ofTexts vars := by
  induction e generalizing vars with
  | nil =>
    have htexts : Env.texts [] = .ok [] := rfl
    cases vars <;> simp [htexts, ofTexts]
  | cons b e ih =>
    rw [texts, List.mapM_cons]
    constructor
    · intro h
      obtain ⟨p, hp, h⟩ := exists_of_bind_eq_ok h
      obtain ⟨vars, hvars, h⟩ := exists_of_bind_eq_ok h
      cases h
      rw [ih.1 hvars]
      split at hp
      next n v hn hv =>
        cases hp
        rw [ofTexts, ofTexts, List.map_cons, ← decode?_eq_some_iff.1 hn, ← decode?_eq_some_iff.1 hv]
      · cases hp
      · cases hp
    · intro h
      cases vars with
      | nil => cases h
      | cons v vars =>
        obtain ⟨rfl, he⟩ := List.cons.inj h
        have hvars : texts e = .ok vars := ih.2 he
        rw [texts] at hvars
        simp only [decode?_utf8, hvars]
        rfl

theorem Env.exists_ofTexts_iff (e : Env) : (∃ vars, e = ofTexts vars) ↔ ∀ b ∈ e, IsText b.1 ∧ IsText b.2 := by
  induction e with
  | nil => exact ⟨by simp, fun _ => ⟨[], rfl⟩⟩
  | cons b e ih =>
    rw [List.forall_mem_cons, ← ih]
    constructor
    · rintro ⟨vars, h⟩
      cases vars with
      | nil => cases h
      | cons v vars =>
        obtain ⟨rfl, rfl⟩ := List.cons.inj h
        exact ⟨⟨isText_utf8 _, isText_utf8 _⟩, vars, rfl⟩
    · rintro ⟨⟨⟨n, hn⟩, v, hv⟩, vars, rfl⟩
      exact ⟨(n, v) :: vars, by rw [ofTexts, ofTexts, List.map_cons, ← hn, ← hv]⟩

namespace DotEnv

theorem mem_foldl_addTo (adds : List Assignment) (e : Env) {b : Bytes × Bytes}
    (h : b ∈ adds.foldl Assignment.addTo e) : b ∈ e ∨ IsText b.1 ∧ IsText b.2 := by
  induction adds generalizing e with
  | nil => exact .inl h
  | cons a adds ih =>
    obtain h | h := ih _ h
    · obtain h | rfl := Env.mem_set h
      · exact .inl h
      · exact .inr ⟨isText_utf8 _, isText_utf8 _⟩
    · exact .inr h

/-- What is added leaves nothing that is not text exactly where every name is text, and every value but those that are
replaced: each the first that is bound to a name that is added. -/
theorem forall_isText_foldl_addTo (adds : List Assignment) (e : Env) :
    (∀ b ∈ adds.foldl Assignment.addTo e, IsText b.1 ∧ IsText b.2) ↔
      ∀ before b after, e = before ++ b :: after →
        IsText b.1 ∧ (IsText b.2 ∨ (∀ c ∈ before, c.1 ≠ b.1) ∧ ∃ a ∈ adds, b.1 = utf8 a.name) := by
  induction e generalizing adds with
  | nil =>
    refine ⟨fun _ before b after h => ?_, fun _ b hb => ?_⟩
    · simp at h
    · exact (mem_foldl_addTo adds [] hb).resolve_left (by simp)
  | cons b e ih =>
    -- The first binding takes every addition to its name with it, so a later binding of that name has none left.
    obtain ⟨v, heq, hv⟩ := foldl_addTo_cons adds b e
    rw [heq, List.forall_mem_cons, ih]
    constructor
    · rintro ⟨⟨hname, hvalue⟩, hrest⟩ before c after h
      cases before with
      | nil =>
        obtain ⟨rfl, rfl⟩ := List.cons.inj h
        refine ⟨hname, ?_⟩
        rcases hv with ⟨rfl, -⟩ | ⟨a, ha, hab, -⟩
        · exact .inl hvalue
        · exact .inr ⟨by simp, a, ha, hab.symm⟩
      | cons d before =>
        obtain ⟨rfl, rfl⟩ := List.cons.inj h
        obtain ⟨hc, hcv⟩ := hrest before c after rfl
        refine ⟨hc, hcv.imp_right ?_⟩
        rintro ⟨hfirst, a, ha, hca⟩
        obtain ⟨ha, hne⟩ := List.mem_filter.1 ha
        exact ⟨List.forall_mem_cons.2 ⟨fun hbc => by simp [hbc, hca] at hne, hfirst⟩, a, ha, hca⟩
    · intro h
      obtain ⟨hname, hvalue⟩ := h [] b e rfl
      refine ⟨⟨hname, ?_⟩, fun before c after hsplit => ?_⟩
      · rcases hv with ⟨rfl, hne⟩ | ⟨a, -, -, rfl⟩
        · obtain hvalue | ⟨-, a, ha, hba⟩ := hvalue
          · exact hvalue
          · exact absurd hba.symm (hne a ha)
        · exact isText_utf8 _
      · obtain ⟨hc, hcv⟩ := h (b :: before) c after (by rw [hsplit]; rfl)
        refine ⟨hc, hcv.imp_right ?_⟩
        rintro ⟨hfirst, a, ha, hca⟩
        obtain ⟨hbc, hfirst⟩ := List.forall_mem_cons.1 hfirst
        exact ⟨hfirst, a, List.mem_filter.2 ⟨ha, by simpa [← hca] using Ne.symm hbc⟩, hca⟩

end DotEnv

namespace Settings

open DotEnv

variable {m m' : Machine} {c : Option Complaint} {vars : List (Text × Text)}

@[simp] theorem env_complain (m : Machine) (c : Option Complaint) : (complain m c).env = m.env := by
  cases c with
  | none => rfl
  | some c => exact Machine.env_emit m _

theorem read_of_load (base : Bytes) (h : load m = .ok (m', c)) (hv : m'.env = .ofTexts vars) :
    ∃ after, read base m = .ok (ofBindings vars base, after) ∧ after.env = m'.env := by
  have htexts : (complain m' c).env.texts = .ok vars := by
    rw [env_complain]
    exact Env.texts_eq_ok_iff.2 hv
  simp only [read, h, htexts]
  exact ⟨_, rfl, by rw [Machine.env_emit, env_complain]⟩

theorem load_of_read {base : Bytes} {s : Settings} (h : read base m = .ok (s, m')) :
    ∃ m1 c vars, load m = .ok (m1, c) ∧ m1.env = .ofTexts vars := by
  unfold read at h
  cases hl : load m with
  | error c =>
    rw [hl] at h
    cases h
  | ok r =>
    obtain ⟨m1, c⟩ := r
    rw [hl] at h
    dsimp only at h
    rw [env_complain] at h
    cases ht : m1.env.texts with
    | error b =>
      rw [ht] at h
      cases h
    | ok vars => exact ⟨m1, c, vars, rfl, Env.texts_eq_ok_iff.1 ht⟩

theorem exists_read_iff (base : Bytes) (m : Machine) :
    (∃ s m', read base m = .ok (s, m')) ↔
      (∀ a ∈ added m, '\x00' ∉ a.text) ∧
        ∀ b ∈ (added m).foldl Assignment.addTo m.env, IsText b.1 ∧ IsText b.2 := by
  rw [← Env.exists_ofTexts_iff]
  obtain ⟨hnul, c, hl⟩ | ⟨a, ha, hn, hl⟩ := load_cases m
  · refine ⟨fun ⟨s, m', h⟩ => ⟨hnul, ?_⟩, fun ⟨_, vars, hv⟩ => ?_⟩
    · obtain ⟨m1, c, vars, hl', hv⟩ := load_of_read h
      cases hl.symm.trans hl'
      exact ⟨vars, hv⟩
    · obtain ⟨after, hr, -⟩ := read_of_load base hl hv
      exact ⟨_, after, hr⟩
  · refine ⟨fun ⟨s, m', h⟩ => ?_, fun ⟨hnul, _⟩ => absurd hn (hnul a ha)⟩
    obtain ⟨m1, c, vars, hl', -⟩ := load_of_read h
    cases hl.symm.trans hl'

/-- Settings are read exactly when nothing is added with a NUL in its value, and every variable is text, but for the
values that are replaced.  So they are read from an environment of texts and a file without a zero byte. -/
theorem read_returns_iff (base : Bytes) (m : Machine) :
    ((∃ s m', read base m = .ok (s, m')) ↔
      (∀ a ∈ added m, '\x00' ∉ a.text) ∧
        ∀ before b after, m.env = before ++ b :: after →
          IsText b.1 ∧ (IsText b.2 ∨ (∀ c ∈ before, c.1 ≠ b.1) ∧ ∃ a ∈ added m, b.1 = utf8 a.name)) ∧
      ((∀ b ∈ m.env, IsText b.1 ∧ IsText b.2 ∧ 0 ∉ b.2) → (∀ content, search m = .found content → 0 ∉ content) →
        ∃ s m', read base m = .ok (s, m')) := by
  refine ⟨by rw [exists_read_iff, forall_isText_foldl_addTo], fun he hf => ?_⟩
  refine (exists_read_iff base m).2 ⟨?_, fun b hb => ?_⟩
  · exact nul_not_mem_added (fun b hb => (he b hb).2.2) hf
  · obtain hb | hb := mem_foldl_addTo _ _ hb
    · exact ⟨(he b hb).1, (he b hb).2.1⟩
    · exact hb

theorem stray_variable_stops_reading :
    read [] { Machine.ofFiles [] with env := [(utf8 "NOTE".toList, [0xff])] } = .error (.notText [0xff]) := rfl

/-- After a complaint about the file, the assignments before the trouble have been added all the same, and the settings are
read with them.  The environment is as before only where there was nothing to add. -/
theorem additions_stay_after_complaint (base : Bytes) (m m' : Machine) (c : Complaint)
    (h : load m = .ok (m', some c)) :
    m' = { m with env := (added m).foldl Assignment.addTo m.env } ∧
      (∀ a ∈ added m, m.env.text? a.name = none ∧ m'.env.get? (utf8 a.name) = some (utf8 a.text)) ∧
      (m'.env = m.env ↔ added m = []) ∧
      ((∃ cause, search m = .failed cause ∧ c = .cause cause ∧ added m = []) ∨
        ∃ content before bad after t, search m = .found content ∧ logicalLines content = before ++ bad :: after ∧
          applyLines before [] m.env = .ok (m'.env, none) ∧
          applyLines (before ++ [bad]) [] m.env = .ok (m'.env, some t) ∧ c = .trouble t) ∧
      ∀ vars, m'.env = .ofTexts vars →
        ∃ after, read base m = .ok (ofBindings vars base, after) ∧ after.env = m'.env := by
  have hm' := eq_of_load h
  have henv : m'.env = (added m).foldl Assignment.addTo m.env := by rw [hm']
  have hadded : ∀ a ∈ added m, m.env.text? a.name = none ∧ m'.env.get? (utf8 a.name) = some (utf8 a.text) := by
    intro a ha
    rw [henv]
    exact ⟨added_new m a ha, get?_foldl_addTo_of_mem _ _ (added_nodup m) ha⟩
  refine ⟨hm', hadded, ⟨fun hsame => ?_, fun hnone => ?_⟩, load_split h, fun vars hv => read_of_load base h hv⟩
  · refine List.eq_nil_iff_forall_not_mem.2 fun a ha => ?_
    obtain ⟨hnew, hget⟩ := hadded a ha
    rw [Env.text?, ← hsame, hget, Option.bind_some, decode?_utf8] at hnew
    cases hnew
  · rw [henv, hnone, List.foldl_nil]

def halfUsableFile : Machine :=
  .ofFiles [([".env"], .file false (utf8 "FOFIMON_SOURCE_DIR=/elsewhere\nnot an assignment\n".toList))]

theorem additions_stay_after_complaint_halfUsable :
    ∃ m' c, load halfUsableFile = .ok (m', some c) ∧ ∃ after,
      read (utf8 "/here".toList) halfUsableFile = .ok (⟨utf8 "/elsewhere".toList, none, false⟩, after) ∧
        after.env = .ofTexts [(projectRootVar, "/elsewhere".toList)] := by
  refine ⟨_, _, rfl, ?_⟩
  obtain ⟨-, -, -, -, hread⟩ := additions_stay_after_complaint (utf8 "/here".toList) halfUsableFile _ _ rfl
  exact hread [(projectRootVar, "/elsewhere".toList)] rfl

theorem complained_file_not_ignored :
    ∃ m' c s after, load halfUsableFile = .ok (m', some c) ∧ m'.env ≠ halfUsableFile.env ∧
      read (utf8 "/here".toList) halfUsableFile = .ok (s, after) ∧ after.env ≠ halfUsableFile.env ∧
        s ≠ ofBindings [] (utf8 "/here".toList) :=
  ⟨_, _, _, _, rfl, by decide, rfl, by decide, by decide⟩

end Settings

end Slipway
