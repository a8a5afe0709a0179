import Slipway.DotEnv.Load
import Slipway.Text.Utf8.RoundTrip
set_option autoImplicit false

/-!
What a variables file adds to the environment: `additions`, the assignments that take effect, each read in the
environment that the lines before it have left.  They are for variables without a textual value, no two of them for the
same (`additions_new`, `additions_nodup`).  The lines can be applied unless one of these assignments has a NUL in its
value, and the environment is then the one before with all of them added, whether or not there has been trouble
(`applyLines_cases`).
-/

namespace Slipway.DotEnv

def Assignment.text (a : Assignment) : Text := a.value.getD []

def Assignment.addTo (e : Env) (a : Assignment) : Env := e.set (utf8 a.name) (utf8 a.text)

/-- The assignments that take effect, up to the first trouble. -/
def additions : List (Except Trouble Text) → Assigned → Env → List Assignment
  | [], _, _ => []
  | .error _ :: _, _, _ => []
  | .ok line :: rest, seen, e =>
    match readLine (valueOf e seen) line with
    | .error _ => []
    | .ok none => additions rest seen e
    | .ok (some a) =>
      if (e.text? a.name).isSome then additions rest ((a.name, a.value) :: seen) e
      else a :: additions rest ((a.name, a.value) :: seen) (a.addTo e)

theorem assign_kept {e : Env} {a : Assignment} (h : (e.text? a.name).isSome = true) : assign e a = .ok e := if_pos h

theorem assign_added {e : Env} {a : Assignment} (h : ¬ (e.text? a.name).isSome = true) :
    assign e a = if '\x00' ∈ a.text then .error (.nulInValue a.name a.text) else .ok (a.addTo e) := by
  rw [assign, if_neg h]
  by_cases hn : '\x00' ∈ a.text
  · rw [if_pos hn]
    exact if_pos (by simpa [Assignment.text] using hn)
  · rw [if_neg hn]
    exact if_neg (by simpa [Assignment.text] using hn)

inductive Effect (seen : Assigned) (e : Env) : Except Trouble Text → Prop
  | trouble (l : Except Trouble Text) (t : Trouble)
      (h : ∀ rest, additions (l :: rest) seen e = [] ∧ applyLines (l :: rest) seen e = .ok (e, some t)) :
      Effect seen e l
  | nothing (l : Except Trouble Text)
      (h : ∀ rest, additions (l :: rest) seen e = additions rest seen e ∧
        applyLines (l :: rest) seen e = applyLines rest seen e) :
      Effect seen e l
  | kept (line : Text) (a : Assignment) (hr : readLine (valueOf e seen) line = .ok (some a))
      (h : ∀ rest, additions (.ok line :: rest) seen e = additions rest ((a.name, a.value) :: seen) e ∧
        applyLines (.ok line :: rest) seen e = applyLines rest ((a.name, a.value) :: seen) e) :
      Effect seen e (.ok line)
  | added (line : Text) (a : Assignment) (hr : readLine (valueOf e seen) line = .ok (some a))
      (hnew : e.text? a.name = none)
      (h : ∀ rest, additions (.ok line :: rest) seen e = a :: additions rest ((a.name, a.value) :: seen) (a.addTo e) ∧
        applyLines (.ok line :: rest) seen e =
          if '\x00' ∈ a.text then .error (.nulInValue a.name a.text)
          else applyLines rest ((a.name, a.value) :: seen) (a.addTo e)) :
      Effect seen e (.ok line)

theorem effect (seen : Assigned) (e : Env) (l : Except Trouble Text) : Effect seen e l := by
  cases l with
  | error t => exact .trouble _ t fun rest => ⟨rfl, rfl⟩
  | ok line =>
    cases hr : readLine (valueOf e seen) line with
    | error t => exact .trouble _ t fun rest => ⟨by rw [additions, hr], by rw [applyLines, hr]⟩
    | ok o =>
      cases o with
      | none => exact .nothing _ fun rest => ⟨by rw [additions, hr], by rw [applyLines, hr]⟩
      | some a =>
        by_cases hs : (e.text? a.name).isSome = true
        · refine .kept line a hr fun rest => ⟨?_, ?_⟩
          · rw [additions, hr]
            exact if_pos hs
          · rw [applyLines, hr]
            dsimp only
            rw [assign_kept hs]
        · refine .added line a hr (by simpa using hs) fun rest => ⟨?_, ?_⟩
          · rw [additions, hr]
            exact if_neg hs
          · rw [applyLines, hr]
            dsimp only
            rw [assign_added hs]
            by_cases hn : '\x00' ∈ a.text
            · rw [if_pos hn, if_pos hn]
            · rw [if_neg hn, if_neg hn]

/-- Either nothing that is to be added has a NUL in its value, and then all of it has been added; or something has, and
brings the program down. -/
theorem applyLines_cases (ls : List (Except Trouble Text)) (seen : Assigned) (e : Env) :
    ((∀ a ∈ additions ls seen e, '\x00' ∉ a.text) ∧
        ∃ t, applyLines ls seen e = .ok ((additions ls seen e).foldl Assignment.addTo e, t)) ∨
      ∃ a ∈ additions ls seen e, '\x00' ∈ a.text ∧ applyLines ls seen e = .error (.nulInValue a.name a.text) := by
  induction ls generalizing seen e with
  | nil => exact .inl ⟨by simp [additions], none, rfl⟩
  | cons l rest ih =>
    cases effect seen e l with
    | trouble _ t hl =>
      obtain ⟨hadd, happ⟩ := hl rest
      exact .inl ⟨by simp [hadd], some t, by rw [hadd, happ, List.foldl_nil]⟩
    | nothing _ hl =>
      obtain ⟨hadd, happ⟩ := hl rest
      rw [hadd, happ]
      exact ih _ _
    | kept line a _ hl =>
      obtain ⟨hadd, happ⟩ := hl rest
      rw [hadd, happ]
      exact ih _ _
    | added line a _ _ hl =>
      obtain ⟨hadd, happ⟩ := hl rest
      rw [hadd, happ]
      by_cases hn : '\x00' ∈ a.text
      · rw [if_pos hn]
        exact .inr ⟨a, List.mem_cons_self, hn, rfl⟩
      · rw [if_neg hn]
        obtain ⟨hrest, hok⟩ | ⟨b, hb, hbn, herr⟩ := ih ((a.name, a.value) :: seen) (a.addTo e)
        · exact .inl ⟨List.forall_mem_cons.2 ⟨hn, hrest⟩, hok⟩
        · exact .inr ⟨b, List.mem_cons_of_mem a hb, hbn, herr⟩

theorem applyLines_split (ls : List (Except Trouble Text)) (seen : Assigned) (e : Env) {e' : Env} {t : Trouble}
    (h : applyLines ls seen e = .ok (e', some t)) :
    ∃ before bad after, ls = before ++ bad :: after ∧ applyLines before seen e = .ok (e', none) ∧
      applyLines (before ++ [bad]) seen e = .ok (e', some t) := by
  induction ls generalizing seen e with
  | nil => cases h
  | cons l rest ih =>
    cases effect seen e l with
    | trouble _ t hl =>
      rw [(hl rest).2] at h
      cases h
      exact ⟨[], l, rest, rfl, rfl, (hl []).2⟩
    | nothing _ hl =>
      obtain ⟨before, bad, after, rfl, hok, hbad⟩ := ih _ _ ((hl rest).2 ▸ h)
      exact ⟨l :: before, bad, after, rfl, (hl before).2.trans hok, (hl (before ++ [bad])).2.trans hbad⟩
    | kept line a _ hl =>
      obtain ⟨before, bad, after, rfl, hok, hbad⟩ := ih _ _ ((hl rest).2 ▸ h)
      exact ⟨.ok line :: before, bad, after, rfl, (hl before).2.trans hok, (hl (before ++ [bad])).2.trans hbad⟩
    | added line a _ _ hl =>
      rw [(hl rest).2] at h
      by_cases hn : '\x00' ∈ a.text
      · simp [hn] at h
      · rw [if_neg hn] at h
        obtain ⟨before, bad, after, rfl, hok, hbad⟩ := ih _ _ h
        refine ⟨.ok line :: before, bad, after, rfl, ?_, ?_⟩
        · rw [(hl before).2, if_neg hn, hok]
        · rw [List.cons_append, (hl (before ++ [bad])).2, if_neg hn, hbad]

theorem text?_addTo_self (e : Env) (a : Assignment) : (a.addTo e).text? a.name = some a.text := by
  rw [Env.text?, Assignment.addTo, Env.get?_set_self, Option.bind_some, decode?_utf8]

theorem text?_addTo_of_ne (e : Env) (a : Assignment) {name : Text} (h : a.name ≠ name) :
    (a.addTo e).text? name = e.text? name := by
  rw [Env.text?, Assignment.addTo, Env.get?_set_of_ne e _ _ _ fun hn => h (utf8_injective hn)]
  rfl

theorem additions_new (ls : List (Except Trouble Text)) (seen : Assigned) (e : Env) :
    ∀ a ∈ additions ls seen e, e.text? a.name = none := by
  induction ls generalizing seen e with
  | nil => simp [additions]
  | cons l rest ih =>
    cases effect seen e l with
    | trouble _ t hl => simp [(hl rest).1]
    | nothing _ hl => exact (hl rest).1 ▸ ih _ _
    | kept line a _ hl => exact (hl rest).1 ▸ ih _ _
    | added line a _ hnew hl =>
      rw [(hl rest).1]
      refine List.forall_mem_cons.2 ⟨hnew, fun b hb => ?_⟩
      have hb' := ih _ _ b hb
      by_cases hab : a.name = b.name
      · rw [← hab]
        exact hnew
      · rwa [text?_addTo_of_ne e a hab] at hb'

theorem additions_nodup (ls : List (Except Trouble Text)) (seen : Assigned) (e : Env) :
    ((additions ls seen e).map Assignment.name).Nodup := by
  induction ls generalizing seen e with
  | nil => simp [additions]
  | cons l rest ih =>
    cases effect seen e l with
    | trouble _ t hl => simp [(hl rest).1]
    | nothing _ hl => exact (hl rest).1 ▸ ih _ _
    | kept line a _ hl => exact (hl rest).1 ▸ ih _ _
    | added line a _ _ hl =>
      rw [(hl rest).1, List.map_cons, List.nodup_cons]
      refine ⟨fun ha => ?_, ih _ _⟩
      obtain ⟨b, hb, hba⟩ := List.mem_map.1 ha
      have hb' := additions_new _ _ _ b hb
      rw [hba, text?_addTo_self] at hb'
      cases hb'

variable {a : Assignment}

theorem get?_foldl_addTo_of_ne (adds : List Assignment) (e : Env) {name : Bytes} (h : ∀ a ∈ adds, utf8 a.name ≠ name) :
    (adds.foldl Assignment.addTo e).get? name = e.get? name := by
  induction adds generalizing e with
  | nil => rfl
  | cons b adds ih =>
    rw [List.foldl_cons, ih _ fun a ha => h a (List.mem_cons_of_mem b ha), Assignment.addTo,
      Env.get?_set_of_ne e _ _ _ (h b List.mem_cons_self)]

theorem get?_foldl_addTo_of_mem (adds : List Assignment) (e : Env) (hn : (adds.map Assignment.name).Nodup)
    (ha : a ∈ adds) : (adds.foldl Assignment.addTo e).get? (utf8 a.name) = some (utf8 a.text) := by
  induction adds generalizing e with
  | nil => cases ha
  | cons b adds ih =>
    rw [List.map_cons, List.nodup_cons] at hn
    rw [List.foldl_cons]
    rcases List.mem_cons.1 ha with rfl | ha
    · have hne : ∀ c ∈ adds, utf8 c.name ≠ utf8 a.name := fun c hc he =>
        hn.1 (List.mem_map.2 ⟨c, hc, utf8_injective he⟩)
      rw [get?_foldl_addTo_of_ne adds _ hne, Assignment.addTo, Env.get?_set_self]
    · exact ih _ hn.2 ha

theorem foldl_addTo_cons (adds : List Assignment) (b : Bytes × Bytes) (e : Env) :
    ∃ v, adds.foldl Assignment.addTo (b :: e) =
        (b.1, v) :: (adds.filter fun a => utf8 a.name != b.1).foldl Assignment.addTo e ∧
      ((v = b.2 ∧ ∀ a ∈ adds, utf8 a.name ≠ b.1) ∨ ∃ a ∈ adds, utf8 a.name = b.1 ∧ v = utf8 a.text) := by
  induction adds generalizing b e with
  | nil => exact ⟨b.2, rfl, .inl ⟨rfl, by simp⟩⟩
  | cons a adds ih =>
    by_cases hab : utf8 a.name = b.1
    · have hset : a.addTo (b :: e) = (b.1, utf8 a.text) :: e := by
        rw [← hab]
        exact if_pos hab.symm
      obtain ⟨v, heq, hv⟩ := ih (b.1, utf8 a.text) e
      refine ⟨v, ?_, .inr ?_⟩
      · rw [List.foldl_cons, hset, heq, List.filter_cons_of_neg (by simp [hab])]
      · rcases hv with ⟨rfl, -⟩ | ⟨c, hc, hcb, rfl⟩
        · exact ⟨a, List.mem_cons_self, hab, rfl⟩
        · exact ⟨c, List.mem_cons_of_mem a hc, hcb, rfl⟩
    · have hset : a.addTo (b :: e) = b :: a.addTo e := if_neg fun h => hab h.symm
      obtain ⟨v, heq, hv⟩ := ih b (a.addTo e)
      refine ⟨v, ?_, ?_⟩
      · rw [List.foldl_cons, hset, heq, List.filter_cons_of_pos (by simp [hab]), List.foldl_cons]
      · rcases hv with ⟨rfl, hne⟩ | ⟨c, hc, hcb, rfl⟩
        · exact .inl ⟨rfl, List.forall_mem_cons.2 ⟨hab, hne⟩⟩
        · exact .inr ⟨c, List.mem_cons_of_mem a hc, hcb, rfl⟩

def added (m : Machine) : List Assignment :=
  match search m with
  | .found content => additions (logicalLines content) [] m.env
  | _ => []

theorem load_cases (m : Machine) :
    ((∀ a ∈ added m, '\x00' ∉ a.text) ∧
        ∃ c, load m = .ok ({ m with env := (added m).foldl Assignment.addTo m.env }, c)) ∨
      ∃ a ∈ added m, '\x00' ∈ a.text ∧ load m = .error (.nulInValue a.name a.text) := by
  unfold added load
  cases search m with
  | nowhere => exact .inl ⟨by simp, none, rfl⟩
  | failed c => exact .inl ⟨by simp, some (.cause c), rfl⟩
  | found content =>
    dsimp only [applyContent]
    obtain ⟨hnul, t, hok⟩ | ⟨a, ha, hn, herr⟩ := applyLines_cases (logicalLines content) [] m.env
    · exact .inl ⟨hnul, t.map .trouble, by rw [hok]⟩
    · exact .inr ⟨a, ha, hn, by rw [herr]⟩

theorem eq_of_load {m m' : Machine} {c : Option Complaint} (h : load m = .ok (m', c)) :
    m' = { m with env := (added m).foldl Assignment.addTo m.env } := by
  obtain ⟨-, c', hl⟩ | ⟨_, -, -, hl⟩ := load_cases m
  · exact congrArg Prod.fst (Except.ok.inj (h.symm.trans hl))
  · cases h.symm.trans hl

theorem added_new (m : Machine) : ∀ a ∈ added m, m.env.text? a.name = none := by
  unfold added
  split
  · exact additions_new _ _ _
  · simp

theorem added_nodup (m : Machine) : ((added m).map Assignment.name).Nodup := by
  unfold added
  split
  · exact additions_nodup _ _ _
  · simp

theorem load_split {m m' : Machine} {c : Complaint} (h : load m = .ok (m', some c)) :
    (∃ cause, search m = .failed cause ∧ c = .cause cause ∧ added m = []) ∨
      ∃ content before bad after t, search m = .found content ∧ logicalLines content = before ++ bad :: after ∧
        applyLines before [] m.env = .ok (m'.env, none) ∧
        applyLines (before ++ [bad]) [] m.env = .ok (m'.env, some t) ∧ c = .trouble t := by
  unfold added
  unfold load at h
  cases hs : search m with
  | nowhere =>
    rw [hs] at h
    cases h
  | failed cause =>
    rw [hs] at h
    cases h
    exact .inl ⟨cause, rfl, rfl, rfl⟩
  | found content =>
    rw [hs] at h
    dsimp only [applyContent] at h
    cases happ : applyLines (logicalLines content) [] m.env with
    | error c =>
      rw [happ] at h
      cases h
    | ok r =>
      obtain ⟨e, t⟩ := r
      rw [happ] at h
      cases t with
      | none => cases h
      | some t =>
        cases h
        obtain ⟨before, bad, after, hsplit, hok, hbad⟩ := applyLines_split _ _ _ happ
        exact .inr ⟨content, before, bad, after, t, rfl, hsplit, hok, hbad, rfl⟩

end Slipway.DotEnv
