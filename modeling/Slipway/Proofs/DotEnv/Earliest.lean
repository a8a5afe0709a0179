import Slipway.Proofs.DotEnv.Characters
set_option autoImplicit false

/-!
A variables file line by line, as a relation between environments.  What a line says depends on the environment in which
it is read and on nothing else, for what the lines before it have assigned is in the environment already
(`valueOf_eq_valueIn`).  So well-formed lines lead from environment to environment (`LeadsTo`), and loading follows them
up to the end or to the first malformed one (`exists_leadsTo`).  A variable that was not bound before has the value of the
earliest assignment to it (`LeadsTo.exists_earliest`).
-/

namespace Slipway.DotEnv

/-- The value of a variable as a line read in this environment sees it: empty where there is none. -/
def valueIn (e : Env) (name : Text) : Text := (entryValue? e name).getD []

def readIn (e : Env) (l : Except Trouble Text) : Except Trouble (Option Assignment) := l.bind (readLine (valueIn e))

def Malformed (e : Env) (l : Except Trouble Text) : Prop := ∃ t, readIn e l = .error t

/-- Well-formed lines, one after the other: an assignment takes effect where the variable has no textual value yet. -/
inductive LeadsTo : Env → List (Except Trouble Text) → Env → Prop
  | done (e : Env) : LeadsTo e [] e
  | nothing {e e' : Env} {l : Except Trouble Text} {rest : List (Except Trouble Text)} (hr : readIn e l = .ok none)
      (h : LeadsTo e rest e') : LeadsTo e (l :: rest) e'
  | kept {e e' : Env} {l : Except Trouble Text} {rest : List (Except Trouble Text)} {a : Assignment}
      (hr : readIn e l = .ok (some a)) (hs : (e.text? a.name).isSome = true) (h : LeadsTo e rest e') :
      LeadsTo e (l :: rest) e'
  | bound {e e' : Env} {l : Except Trouble Text} {rest : List (Except Trouble Text)} {a : Assignment}
      (hr : readIn e l = .ok (some a)) (hn : e.text? a.name = none) (h : LeadsTo (a.addTo e) rest e') :
      LeadsTo e (l :: rest) e'

def Stops (e : Env) : List (Except Trouble Text) → Prop
  | [] => True
  | l :: _ => Malformed e l

/-- The line behind `front` assigns `a` in the environment that the lines before it have left. -/
def Assigns (e : Env) (ls front : List (Except Trouble Text)) (a : Assignment) : Prop :=
  ∃ l back mid, ls = front ++ l :: back ∧ LeadsTo e front mid ∧ readIn mid l = .ok (some a)

section Names

variable {vars : Text → Text} {line n : Text} {a : Assignment}

theorem isNameChar_of_name? {c c' : Cursor} (h : c.name? = some (n, c')) : ∀ x ∈ n, Cursor.isNameChar x = true := by
  unfold Cursor.name? at h
  repeat' split at h
  all_goals cases h
  exact List.all_eq_true.1 List.all_takeWhile

theorem isNameChar_of_readName {c c' : Cursor} (h : readName line c = .ok (n, c')) :
    ∀ x ∈ n, Cursor.isNameChar x = true := by
  unfold readName at h
  obtain ⟨⟨n1, c1⟩, h1, h⟩ := exists_of_bind_eq_ok h
  dsimp only at h1 h
  split at h
  · obtain ⟨⟨n2, c2⟩, h2, h⟩ := exists_of_bind_eq_ok h
    obtain ⟨c3, -, h⟩ := exists_of_bind_eq_ok h
    cases h
    split at h2
    next hd =>
      cases h2
      exact isNameChar_of_name? hd
    · cases h2
  · obtain ⟨c2, -, h⟩ := exists_of_bind_eq_ok h
    cases h
    split at h1
    next hd =>
      cases h1
      exact isNameChar_of_name? hd
    · cases h1

theorem isNameChar_of_readLine (h : readLine vars line = .ok (some a)) : ∀ x ∈ a.name, Cursor.isNameChar x = true := by
  unfold readLine at h
  dsimp only at h
  split at h
  · cases h
  · obtain ⟨⟨n, c⟩, hn, h⟩ := exists_of_bind_eq_ok h
    dsimp only at h
    split at h
    · cases h
      exact isNameChar_of_readName hn
    · obtain ⟨v, -, h⟩ := exists_of_bind_eq_ok h
      cases h
      exact isNameChar_of_readName hn

theorem equals_not_mem_name (h : readLine vars line = .ok (some a)) : 0x3D ∉ utf8 a.name := by
  rw [ascii_mem_utf8_iff (by decide)]
  exact fun heq => absurd (isNameChar_of_readLine h _ heq) (by decide)

end Names

theorem noEquals_of_readIn {e : Env} {l : Except Trouble Text} {a : Assignment} (h : readIn e l = .ok (some a)) :
    0x3D ∉ utf8 a.name := by
  cases l with
  | error t => cases h
  | ok line => exact equals_not_mem_name h

section Settled

variable {seen : Assigned} {e : Env} {a : Assignment}

/-- What has been assigned is in the environment, under a name that an entry can have. -/
def Settled (seen : Assigned) (e : Env) : Prop := ∀ p ∈ seen, 0x3D ∉ utf8 p.1 ∧ (e.text? p.1).isSome = true

theorem Settled.cons (h : Settled seen e) (hname : 0x3D ∉ utf8 a.name) (hs : (e.text? a.name).isSome = true) :
    Settled ((a.name, a.value) :: seen) e := List.forall_mem_cons.2 ⟨⟨hname, hs⟩, h⟩

theorem isSome_text?_addTo {name : Text} (a : Assignment) (h : (e.text? name).isSome = true) :
    ((a.addTo e).text? name).isSome = true := by
  by_cases hn : a.name = name
  · rw [← hn, text?_addTo_self, Option.isSome_some]
  · rwa [text?_addTo_of_ne e a hn]

theorem Settled.addTo (h : Settled seen e) (a : Assignment) : Settled seen (a.addTo e) := fun p hp =>
  ⟨(h p hp).1, isSome_text?_addTo a (h p hp).2⟩

theorem entryValue?_of_noEquals {name : Text} (h : 0x3D ∉ utf8 name) : entryValue? e name = e.text? name := by
  unfold entryValue?
  dsimp only
  cases hd : (utf8 name).dropWhile (· != 0x3D) with
  | nil => rfl
  | cons b more =>
    have hb : b = 0x3D := by simpa [hd] using List.head?_dropWhile_not (· != 0x3D) (utf8 name)
    exact absurd (hb ▸ (List.dropWhile_sublist _).subset (hd ▸ List.mem_cons_self)) h

theorem valueOf_eq_valueIn (h : Settled seen e) : valueOf e seen = valueIn e := by
  funext name
  unfold valueOf valueIn
  cases hv : entryValue? e name with
  | some v => rfl
  | none =>
    cases hl : seen.lookup name with
    | none => rfl
    | some o =>
      obtain ⟨hname, hs⟩ := h (name, o) (mem_of_lookup hl)
      rw [← entryValue?_of_noEquals hname, hv] at hs
      cases hs

theorem applyLines_cons (h : Settled seen e) (l : Except Trouble Text) (rest : List (Except Trouble Text)) :
    applyLines (l :: rest) seen e =
      match readIn e l with
      | .error t => .ok (e, some t)
      | .ok none => applyLines rest seen e
      | .ok (some a) =>
        match assign e a with
        | .ok e' => applyLines rest ((a.name, a.value) :: seen) e'
        | .error c => .error c := by
  cases l with
  | error t => rfl
  | ok line =>
    rw [applyLines, valueOf_eq_valueIn h]
    rfl

theorem exists_leadsTo {ls : List (Except Trouble Text)} {e' : Env} {t : Option Trouble} (hs : Settled seen e)
    (h : applyLines ls seen e = .ok (e', t)) :
    ∃ front rest, ls = front ++ rest ∧ LeadsTo e front e' ∧ Stops e' rest := by
  induction ls generalizing seen e with
  | nil =>
    cases h
    exact ⟨[], [], rfl, .done _, trivial⟩
  | cons l rest ih =>
    rw [applyLines_cons hs] at h
    cases hr : readIn e l with
    | error t =>
      rw [hr] at h
      cases h
      exact ⟨[], l :: rest, rfl, .done _, t, hr⟩
    | ok o =>
      rw [hr] at h
      cases o with
      | none =>
        obtain ⟨front, rest, rfl, hlead, hstop⟩ := ih hs h
        exact ⟨l :: front, rest, rfl, .nothing hr hlead, hstop⟩
      | some a =>
        have hname := noEquals_of_readIn hr
        dsimp only at h
        by_cases hset : (e.text? a.name).isSome = true
        · rw [assign_kept hset] at h
          obtain ⟨front, rest, rfl, hlead, hstop⟩ := ih (hs.cons hname hset) h
          exact ⟨l :: front, rest, rfl, .kept hr hset hlead, hstop⟩
        · rw [assign_added hset] at h
          by_cases hn : '\x00' ∈ a.text
          · rw [if_pos hn] at h
            cases h
          · rw [if_neg hn] at h
            have hadded : ((a.addTo e).text? a.name).isSome = true := by rw [text?_addTo_self, Option.isSome_some]
            obtain ⟨front, rest, rfl, hlead, hstop⟩ := ih ((hs.addTo a).cons hname hadded) h
            exact ⟨l :: front, rest, rfl, .bound hr (by simpa using hset) hlead, hstop⟩

end Settled

namespace LeadsTo

variable {e e' e₁ e₂ mid : Env} {l : Except Trouble Text} {ls front back rest rest' : List (Except Trouble Text)}
  {a : Assignment}

theorem text?_eq (h : LeadsTo e ls e') {name v : Text} (hv : e.text? name = some v) : e'.text? name = some v := by
  induction h with
  | done e => exact hv
  | nothing _ _ ih => exact ih hv
  | kept _ _ _ ih => exact ih hv
  | @bound e e' l rest a hr hn _ ih =>
    refine ih ?_
    have hne : a.name ≠ name := fun heq => by simp [← heq, hn] at hv
    rw [text?_addTo_of_ne e a hne, hv]

theorem split (h : LeadsTo e (front ++ back) e') : ∃ mid, LeadsTo e front mid ∧ LeadsTo mid back e' := by
  induction front generalizing e with
  | nil => exact ⟨e, .done e, h⟩
  | cons l front ih =>
    cases h with
    | nothing hr h =>
      obtain ⟨mid, hfront, hback⟩ := ih h
      exact ⟨mid, .nothing hr hfront, hback⟩
    | kept hr hs h =>
      obtain ⟨mid, hfront, hback⟩ := ih h
      exact ⟨mid, .kept hr hs hfront, hback⟩
    | bound hr hn h =>
      obtain ⟨mid, hfront, hback⟩ := ih h
      exact ⟨mid, .bound hr hn hfront, hback⟩

theorem unique (h₁ : LeadsTo e ls e₁) (h₂ : LeadsTo e ls e₂) : e₁ = e₂ := by
  induction h₁ with
  | done e =>
    cases h₂
    rfl
  | nothing hr _ ih =>
    cases h₂ with
    | nothing _ h => exact ih h
    | kept hr' _ _ => simp [hr] at hr'
    | bound hr' _ _ => simp [hr] at hr'
  | kept hr hs _ ih =>
    cases h₂ with
    | nothing hr' _ => simp [hr] at hr'
    | kept hr' _ h => exact ih h
    | bound hr' hn _ =>
      obtain rfl := Option.some.inj (Except.ok.inj (hr.symm.trans hr'))
      simp [hn] at hs
  | bound hr hn _ ih =>
    cases h₂ with
    | nothing hr' _ => simp [hr] at hr'
    | kept hr' hs _ =>
      obtain rfl := Option.some.inj (Except.ok.inj (hr.symm.trans hr'))
      simp [hn] at hs
    | bound hr' _ h =>
      obtain rfl := Option.some.inj (Except.ok.inj (hr.symm.trans hr'))
      exact ih h

theorem not_malformed (h : LeadsTo e (l :: rest) e') : ¬ Malformed e l := by
  rintro ⟨t, ht⟩
  cases h with
  | nothing hr _ => simp [hr] at ht
  | kept hr _ _ => simp [hr] at ht
  | bound hr _ _ => simp [hr] at ht

theorem isSome_of_assignment (h : LeadsTo e (l :: rest) e') (hr : readIn e l = .ok (some a)) :
    (e'.text? a.name).isSome = true := by
  cases h with
  | nothing hr' _ => simp [hr] at hr'
  | kept hr' hs h =>
    obtain rfl := Option.some.inj (Except.ok.inj (hr.symm.trans hr'))
    obtain ⟨v, hv⟩ := Option.isSome_iff_exists.1 hs
    rw [h.text?_eq hv, Option.isSome_some]
  | bound hr' _ h =>
    obtain rfl := Option.some.inj (Except.ok.inj (hr.symm.trans hr'))
    rw [h.text?_eq (text?_addTo_self _ _), Option.isSome_some]

theorem exists_append_of_stops (h : LeadsTo e front mid) (h' : LeadsTo e ls e') (hstop : Stops e' rest')
    (heq : front ++ rest = ls ++ rest') : ∃ more, ls = front ++ more ∧ rest = more ++ rest' := by
  rcases List.append_eq_append_iff.1 heq with ⟨more, rfl, hmore⟩ | ⟨more, rfl, hmore⟩
  · exact ⟨more, rfl, hmore⟩
  · cases more with
    | nil => exact ⟨[], by simp, by simpa using hmore.symm⟩
    | cons l more =>
      -- The line at which the reading stops would be among the well-formed ones.
      obtain ⟨mid', hls, hmid⟩ := h.split
      obtain rfl := hls.unique h'
      rw [hmore] at hstop
      exact absurd hstop hmid.not_malformed

theorem eq_of_stops (h : LeadsTo e front mid) (hmid : Stops mid rest) (h' : LeadsTo e ls e') (hstop : Stops e' rest')
    (heq : front ++ rest = ls ++ rest') : mid = e' := by
  obtain ⟨more, rfl, -⟩ := h.exists_append_of_stops h' hstop heq
  obtain ⟨more', hfront, -⟩ := h'.exists_append_of_stops h hmid heq.symm
  obtain rfl : more = [] := by
    have hlength := congrArg List.length hfront
    simp only [List.length_append] at hlength
    exact List.eq_nil_of_length_eq_zero (by omega)
  rw [List.append_nil] at h'
  exact h.unique h'

end LeadsTo

section Earliest

variable {e e' mid : Env} {ls front front' rest back : List (Except Trouble Text)} {l : Except Trouble Text}
  {a b : Assignment}

theorem get?_of_text? {name v : Text} (h : e.text? name = some v) : e.get? (utf8 name) = some (utf8 v) := by
  obtain ⟨w, hw, hd⟩ := Option.bind_eq_some_iff.1 h
  rw [hw, decode?_eq_some_iff.1 hd]

theorem LeadsTo.exists_bound (h : LeadsTo e ls e') {name v : Bytes} (hn : e.get? name = none)
    (hv : e'.get? name = some v) :
    ∃ front l back mid a, ls = front ++ l :: back ∧ LeadsTo e front mid ∧ readIn mid l = .ok (some a) ∧
      mid.text? a.name = none ∧ name = utf8 a.name ∧ v = utf8 a.text := by
  induction h with
  | done e => simp [hn] at hv
  | nothing hr _ ih =>
    obtain ⟨front, l, back, mid, a, rfl, hlead, ha⟩ := ih hn hv
    exact ⟨_ :: front, l, back, mid, a, rfl, .nothing hr hlead, ha⟩
  | kept hr hs _ ih =>
    obtain ⟨front, l, back, mid, a, rfl, hlead, ha⟩ := ih hn hv
    exact ⟨_ :: front, l, back, mid, a, rfl, .kept hr hs hlead, ha⟩
  | @bound e e' l rest a hr hnone h ih =>
    by_cases hname : utf8 a.name = name
    · have hvalue := get?_of_text? (h.text?_eq (text?_addTo_self e a))
      rw [hname, hv] at hvalue
      exact ⟨[], l, rest, e, a, rfl, .done e, hr, hnone, hname.symm, Option.some.inj hvalue⟩
    · have hn' : (a.addTo e).get? name = none := by rw [Assignment.addTo, Env.get?_set_of_ne e _ _ _ hname, hn]
      obtain ⟨front, l', back, mid, c, rfl, hlead, hc⟩ := ih hn' hv
      exact ⟨l :: front, l', back, mid, c, rfl, .bound hr hnone hlead, hc⟩

theorem Assigns.name_ne (hb : Assigns e ls front' b) (hls : ls = front ++ back) (hlead : LeadsTo e front mid)
    (hnone : mid.text? a.name = none) (hlt : front'.length < front.length) : b.name ≠ a.name := by
  obtain ⟨l, back', mid', rfl, hlead', hr⟩ := hb
  rcases List.append_eq_append_iff.1 hls with ⟨more, rfl, hmore⟩ | ⟨more, rfl, -⟩
  · cases more with
    | nil => simp at hlt
    | cons l' more =>
      obtain rfl := (List.cons.inj hmore).1
      obtain ⟨mid₁, hfront, hmid⟩ := hlead.split
      obtain rfl := hfront.unique hlead'
      intro hname
      have hs := hmid.isSome_of_assignment hr
      simp [hname, hnone] at hs
  · rw [List.length_append] at hlt
    omega

theorem Assigns.isSome (ha : Assigns e (front ++ rest) front' a) (hlead : LeadsTo e front e') (hstop : Stops e' rest) :
    (e'.text? a.name).isSome = true := by
  obtain ⟨l, back, mid, hls, hmid, hr⟩ := ha
  obtain ⟨more, rfl, hmore⟩ := hmid.exists_append_of_stops hlead hstop hls.symm
  cases more with
  | nil =>
    rw [List.append_nil] at hlead
    obtain rfl := hmid.unique hlead
    obtain rfl : rest = l :: back := hmore.symm
    obtain ⟨t, ht⟩ := hstop
    simp [hr] at ht
  | cons l' more =>
    obtain rfl := (List.cons.inj hmore).1
    obtain ⟨mid₁, hfront, hrest⟩ := hlead.split
    obtain rfl := hfront.unique hmid
    exact hrest.isSome_of_assignment hr

/-- A variable that lines have brought has the value of the earliest assignment to it. -/
theorem LeadsTo.exists_earliest (hlead : LeadsTo e front e') (rest : List (Except Trouble Text)) {name v : Bytes}
    (hn : e.get? name = none) (hv : e'.get? name = some v) :
    ∃ before a, Assigns e (front ++ rest) before a ∧ name = utf8 a.name ∧ v = utf8 a.text ∧
      ∀ before' b, before'.length < before.length → Assigns e (front ++ rest) before' b → b.name ≠ a.name := by
  obtain ⟨before, l, back, mid, a, rfl, hmid, hr, hnone, hname, hvalue⟩ := hlead.exists_bound hn hv
  have hls : before ++ l :: back ++ rest = before ++ l :: (back ++ rest) := by simp
  exact ⟨before, a, ⟨l, back ++ rest, mid, hls, hmid, hr⟩, hname, hvalue,
    fun before' b hlt hb => hb.name_ne hls hmid hnone hlt⟩

end Earliest

end Slipway.DotEnv
