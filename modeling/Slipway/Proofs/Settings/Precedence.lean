import Slipway.Proofs.DotEnv.Earliest
import Slipway.Proofs.Settings.Reading
set_option autoImplicit false

namespace Slipway

namespace Env

variable {vars new : List (Text × Text)} {name : Text}

theorem set_of_get?_eq_none {e : Env} {n : Bytes} (v : Bytes) (h : e.get? n = none) : e.set n v = e ++ [(n, v)] := by
  induction e with
  | nil => rfl
  | cons b e ih =>
    rw [get?_cons] at h
    split at h
    · cases h
    next hne => rw [set, if_neg hne, ih h, List.cons_append]

theorem get?_ofTexts (vars : List (Text × Text)) (name : Text) :
    (ofTexts vars).get? (utf8 name) = (vars.lookup name).map utf8 := by
  induction vars with
  | nil => rfl
  | cons b vars ih =>
    obtain ⟨n, v⟩ := b
    rw [ofTexts, List.map_cons, get?_cons]
    by_cases hn : n = name
    · simp [hn]
    · have hne : utf8 n ≠ utf8 name := fun h => hn (utf8_injective h)
      have hb : (name == n) = false := beq_false_of_ne fun h => hn h.symm
      rw [if_neg hne, List.lookup_cons, hb]
      exact ih

theorem get?_ofTexts_eq_none_iff : (ofTexts vars).get? (utf8 name) = none ↔ name ∉ vars.map Prod.fst := by
  rw [get?_ofTexts, Option.map_eq_none_iff, List.lookup_eq_none_iff, List.mem_map]
  refine ⟨fun h ⟨b, hb, heq⟩ => ?_, fun h b hb => ?_⟩
  · simpa [heq] using h b hb
  · exact bne_iff_ne.2 fun heq => h ⟨b, hb, heq.symm⟩

theorem text?_ofTexts_eq_none_iff : (ofTexts vars).text? name = none ↔ name ∉ vars.map Prod.fst := by
  rw [← get?_ofTexts_eq_none_iff, text?, get?_ofTexts]
  cases vars.lookup name with
  | none => simp
  | some v => simp

theorem ofTexts_append (vars new : List (Text × Text)) : ofTexts (vars ++ new) = ofTexts vars ++ ofTexts new :=
  List.map_append

theorem ofTexts_injective (h : ofTexts vars = ofTexts new) : vars = new := by
  refine (List.map_inj_right fun b c hbc => ?_).1 h
  obtain ⟨hname, hvalue⟩ := Prod.mk.inj hbc
  exact Prod.ext (utf8_injective hname) (utf8_injective hvalue)

end Env

namespace DotEnv

def fileLines (m : Machine) : List (Except Trouble Text) :=
  match search m with
  | .found content => logicalLines content
  | _ => []

theorem exists_leadsTo_of_load {m m' : Machine} {c : Option Complaint} (h : load m = .ok (m', c)) :
    ∃ front rest, fileLines m = front ++ rest ∧ LeadsTo m.env front m'.env ∧ Stops m'.env rest := by
  unfold load at h
  unfold fileLines
  cases hs : search m with
  | nowhere =>
    rw [hs] at h
    cases h
    exact ⟨[], [], rfl, .done _, trivial⟩
  | failed cause =>
    rw [hs] at h
    cases h
    exact ⟨[], [], rfl, .done _, trivial⟩
  | found content =>
    rw [hs] at h
    dsimp only [applyContent] at h
    cases happ : applyLines (logicalLines content) [] m.env with
    | error c =>
      rw [happ] at h
      cases h
    | ok r =>
      rw [happ] at h
      cases h
      exact exists_leadsTo (by simp [Settled]) happ

theorem LeadsTo.exists_new {vars : List (Text × Text)} {ls : List (Except Trouble Text)} {e' : Env}
    (h : LeadsTo (.ofTexts vars) ls e') :
    ∃ new, e' = .ofTexts (vars ++ new) ∧ ∀ b ∈ new, b.1 ∉ vars.map Prod.fst := by
  generalize he : Env.ofTexts vars = e at h
  induction h generalizing vars with
  | done e => exact ⟨[], by simp [he], by simp⟩
  | nothing _ _ ih => exact ih he
  | kept _ _ _ ih => exact ih he
  | @bound e e' l rest a hr hn _ ih =>
    subst he
    have hname := Env.text?_ofTexts_eq_none_iff.1 hn
    have hadd : Env.ofTexts (vars ++ [(a.name, a.text)]) = a.addTo (.ofTexts vars) := by
      rw [Assignment.addTo, Env.set_of_get?_eq_none _ (Env.get?_ofTexts_eq_none_iff.2 hname)]
      simp [Env.ofTexts]
    obtain ⟨new, he', hnew⟩ := ih hadd
    refine ⟨(a.name, a.text) :: new, by simpa using he', List.forall_mem_cons.2 ⟨hname, fun b hb hmem => ?_⟩⟩
    exact hnew b hb (by simp [hmem])

end DotEnv

namespace Settings

variable {vars new : List (Text × Text)} {name : Text}

theorem lastBinding?_append (hnew : ∀ b ∈ new, b.1 ∉ vars.map Prod.fst) (h : name ∈ vars.map Prod.fst) :
    lastBinding? (vars ++ new) name = lastBinding? vars name := by
  have hnone : new.reverse.lookup name = none := by
    refine List.lookup_eq_none_iff.2 fun b hb => bne_iff_ne.2 fun heq => ?_
    exact hnew b (List.mem_reverse.1 hb) (heq ▸ h)
  rw [lastBinding?, lastBinding?, List.reverse_append, List.lookup_append, hnone, Option.none_or]

open DotEnv

theorem exists_leadsTo_of_read {base : Bytes} {m after : Machine} {s : Settings} (h : read base m = .ok (s, after)) :
    (∃ front rest, fileLines m = front ++ rest ∧ LeadsTo m.env front after.env ∧ Stops after.env rest) ∧
      ∃ final, after.env = .ofTexts final ∧ s = ofBindings final base := by
  obtain ⟨loaded, c, final, hl, hfinal⟩ := load_of_read h
  obtain ⟨after', hread, henv⟩ := read_of_load base hl hfinal
  obtain ⟨rfl, rfl⟩ := Prod.mk.inj (Except.ok.inj (h.symm.trans hread))
  rw [henv]
  exact ⟨exists_leadsTo_of_load hl, final, hfinal, rfl⟩

/-- What was set before the variables file was read stays as it was, and decides the settings it is for.  What the file
adds are new names, each with the value of its earliest assignment, read where it stands; all names that are assigned
before the first malformed line, and nothing from that line on. -/
theorem environment_precedes_file (base : Bytes) (m after : Machine) (vars : List (Text × Text)) (s : Settings)
    (hvars : m.env = .ofTexts vars) (h : read base m = .ok (s, after)) :
    (∃ new, after.env = .ofTexts (vars ++ new) ∧ (∀ b ∈ new, b.1 ∉ vars.map Prod.fst) ∧
      s = ofBindings (vars ++ new) base) ∧
    (∀ name v, m.env.get? name = some v → after.env.get? name = some v) ∧
    (∀ name v, m.env.get? name = none → after.env.get? name = some v →
      ∃ before a, Assigns m.env (fileLines m) before a ∧ name = utf8 a.name ∧ v = utf8 a.text ∧
        ∀ before' b, before'.length < before.length → Assigns m.env (fileLines m) before' b → b.name ≠ a.name) ∧
    (∀ before a, Assigns m.env (fileLines m) before a → (after.env.get? (utf8 a.name)).isSome = true) ∧
    (∀ before bad rest mid, fileLines m = before ++ bad :: rest → LeadsTo m.env before mid → Malformed mid bad →
      after.env = mid) ∧
    (projectRootVar ∈ vars.map Prod.fst → s.projectRoot = (ofBindings vars base).projectRoot) ∧
    (compileOptionsVar ∈ vars.map Prod.fst → s.compileOptions = (ofBindings vars base).compileOptions) ∧
    (skipToolCheckVar ∈ vars.map Prod.fst → s.skipToolCheck = (ofBindings vars base).skipToolCheck) := by
  obtain ⟨⟨front, rest, hlines, hlead, hstop⟩, final, hfinal, rfl⟩ := exists_leadsTo_of_read h
  obtain ⟨new, hafter, hnew⟩ := (hvars ▸ hlead).exists_new
  obtain rfl : final = vars ++ new := Env.ofTexts_injective (hfinal.symm.trans hafter)
  rw [hlines]
  refine ⟨⟨new, hafter, hnew, rfl⟩, fun name v hv => ?_, fun name v hn hv => hlead.exists_earliest rest hn hv,
    fun before a ha => ?_, fun before bad rest' mid hls hmid hbad => ?_, fun hset => ?_, fun hset => ?_, fun hset => ?_⟩
  · rw [hvars] at hv
    rw [hafter, Env.ofTexts_append, Env.get?, List.lookup_append, ← Env.get?, hv, Option.some_or]
  · obtain ⟨v, hv⟩ := Option.isSome_iff_exists.1 (ha.isSome hlead hstop)
    rw [get?_of_text? hv, Option.isSome_some]
  · have hstop' : Stops mid (bad :: rest') := hbad
    exact (hmid.eq_of_stops hstop' hlead hstop hls.symm).symm
  · simp only [ofBindings, lastBinding?_append hnew hset]
  · simp only [ofBindings, lastBinding?_append hnew hset]
  · simp only [ofBindings, lastBinding?_append hnew hset]

/-- The project root is set to a blank, and assigned in a file as well.  The file's third line refers to that variable and
to one of its own, and the fifth line is malformed. -/
def blankRoot : Machine where
  tree := ⟨[([utf8 ".env".toList], .file false
    (utf8 "A=1\nFOFIMON_SOURCE_DIR=/x\nB=$A$\x7bFOFIMON_SOURCE_DIR\x7d\nA=2\nnot an assignment\nC=3\n".toList))]⟩
  place := .root
  env := .ofTexts [(projectRootVar, " ".toList)]
  out := []
  err := []
  log := .silent

theorem environment_precedes_file_blankRoot :
    let final := [(projectRootVar, " ".toList), ("A".toList, "1".toList), ("B".toList, "1 ".toList)]
    ∃ s after, read (utf8 "/here".toList) blankRoot = .ok (s, after) ∧ after.env = .ofTexts final ∧
      s.projectRoot = utf8 "/here".toList := by
  intro final
  have hload : ∃ c, load blankRoot = .ok ({ blankRoot with env := .ofTexts final }, some c) := ⟨_, rfl⟩
  obtain ⟨c, hload⟩ := hload
  obtain ⟨after, h, henv⟩ := read_of_load (utf8 "/here".toList) hload rfl
  obtain ⟨-, -, -, -, -, hroot, -, -⟩ := environment_precedes_file _ blankRoot after _ _ rfl h
  exact ⟨_, after, h, henv, hroot (by simp)⟩

end Settings

end Slipway
