import Slipway.Proofs.Settings.CompileOptions
set_option autoImplicit false

namespace Slipway

namespace Path

variable {base p : Bytes}

theorem isAbsolute_join_of_isAbsolute (h : isAbsolute base = true) (p : Bytes) : isAbsolute (join base p) = true := by
  cases base with
  | nil => cases h
  | cons b base =>
    unfold join
    split
    next hp => simpa using hp
    next => split <;> exact h

theorem join_of_isAbsolute (h : isAbsolute p = true) : join base p = p := by simp [join, h]

theorem join_of_relative (hb : base ≠ []) (h : isAbsolute p = false) :
    join base p = if base.getLast? = some slash then base ++ p else base ++ slash :: p := by
  simp [join, h, hb]

end Path

namespace Settings

variable {vars vars' : List (Text × Text)} {name v : Text} {base : Bytes}

def readVars : List Text := [projectRootVar, compileOptionsVar, skipToolCheckVar]

def BoundLast (vars : List (Text × Text)) (name v : Text) : Prop :=
  ∃ before after, vars = before ++ (name, v) :: after ∧ ∀ b ∈ after, b.1 ≠ name

def SameLast (vars vars' : List (Text × Text)) (name : Text) : Prop := ∀ v, BoundLast vars name v ↔ BoundLast vars' name v

theorem lastBinding?_of_boundLast (h : BoundLast vars name v) : lastBinding? vars name = some v :=
  lastBinding?_eq_some_iff.2 h

theorem lastBinding?_congr (h : SameLast vars vars' name) : lastBinding? vars name = lastBinding? vars' name :=
  Option.ext fun v => lastBinding?_eq_some_iff.trans ((h v).trans lastBinding?_eq_some_iff.symm)

theorem lookup_filter (p : Text → Bool) (vars : List (Text × Text)) (name : Text) :
    (vars.filter fun b => p b.1).lookup name = if p name then vars.lookup name else none := by
  induction vars with
  | nil => simp
  | cons b vars ih =>
    obtain ⟨n, v⟩ := b
    by_cases hn : name = n
    · subst hn
      cases hp : p name <;> simp [hp, ih]
    · have hb : (name == n) = false := beq_false_of_ne hn
      cases hp : p n <;> simp [hp, ih, List.lookup_cons, hb]

theorem lastBinding?_filter (p : Text → Bool) (vars : List (Text × Text)) (name : Text) :
    lastBinding? (vars.filter fun b => p b.1) name = if p name then lastBinding? vars name else none := by
  rw [lastBinding?, ← List.filter_reverse, lookup_filter, lastBinding?]

theorem lastBinding?_without (vars : List (Text × Text)) (name n : Text) :
    lastBinding? (vars.filter fun b => b.1 ≠ name) n = if n = name then none else lastBinding? vars n := by
  have hfilter := lastBinding?_filter (fun m => m ≠ name) vars n
  by_cases hn : n = name
  · simpa [hn] using hfilter
  · simpa [hn] using hfilter

theorem ofBindings_congr (hr : lastBinding? vars projectRootVar = lastBinding? vars' projectRootVar)
    (hc : lastBinding? vars compileOptionsVar = lastBinding? vars' compileOptionsVar)
    (hs : lastBinding? vars skipToolCheckVar = lastBinding? vars' skipToolCheckVar) :
    ofBindings vars base = ofBindings vars' base := by
  simp only [ofBindings, hr, hc, hs]

section Blank

variable (h : ∀ c ∈ v, isBlank c = true)

include h

theorem nonBlank?_of_blank : nonBlank? (some v) = none := by
  refine nonBlank?_eq_none_iff.2 fun v' hv => ?_
  cases hv
  exact h

theorem isAffirmative_of_blank : isAffirmative v = false := by
  rw [isAffirmative, (trim_eq_nil_iff v).2 h]
  rfl

theorem ofBindings_of_blank (hlast : BoundLast vars name v) :
    ofBindings vars base = ofBindings (vars.filter fun b => b.1 ≠ name) base := by
  have hbound := lastBinding?_of_boundLast hlast
  have hread (n : Text) : nonBlank? (lastBinding? vars n) = nonBlank? (lastBinding? (vars.filter fun b => b.1 ≠ name) n) := by
    rw [lastBinding?_without]
    split
    next hn =>
      rw [hn, hbound, nonBlank?_of_blank h]
      rfl
    next => rfl
  have hskip : ((lastBinding? vars skipToolCheckVar).map isAffirmative).getD false =
      ((lastBinding? (vars.filter fun b => b.1 ≠ name) skipToolCheckVar).map isAffirmative).getD false := by
    rw [lastBinding?_without]
    split
    next hn =>
      rw [hn, hbound]
      exact isAffirmative_of_blank h
    next => rfl
  simp only [ofBindings, hread, hskip]

end Blank

section ProjectRoot

theorem projectRoot_of_blank (h : ∀ v, BoundLast vars projectRootVar v → ∀ c ∈ v, isBlank c = true) :
    (ofBindings vars base).projectRoot = base := by
  have hnone : nonBlank? (lastBinding? vars projectRootVar) = none :=
    nonBlank?_eq_none_iff.2 fun v hv => h v (lastBinding?_eq_some_iff.1 hv)
  simp only [ofBindings, hnone]

theorem projectRoot_of_boundLast (hlast : BoundLast vars projectRootVar v) (h : ∃ c ∈ v, isBlank c = false) :
    (ofBindings vars base).projectRoot = Path.join base (utf8 v) := by
  obtain ⟨c, hc, hb⟩ := h
  have hne : ¬ trim v = [] := fun ht => by simp [(trim_eq_nil_iff v).1 ht c hc] at hb
  have hsome : nonBlank? (lastBinding? vars projectRootVar) = some v := by
    rw [lastBinding?_of_boundLast hlast]
    simp [nonBlank?, Option.filter, hne]
  simp only [ofBindings, hsome]

theorem isAbsolute_projectRoot (h : Path.isAbsolute base = true) (vars : List (Text × Text)) :
    Path.isAbsolute (ofBindings vars base).projectRoot = true := by
  simp only [ofBindings]
  split
  · exact Path.isAbsolute_join_of_isAbsolute h _
  · exact h

end ProjectRoot

/-- Settings depend on the last binding of the three names and on nothing else: variables that agree in these give the same
settings, be they longer, shorter or in another order; the plan depends on two of them only.  Bindings of other names can
be put in and left out, and a name that is bound to a blank at last, whatever it was bound to before, might as well not be
bound at all.  Seen from an absolute directory the project root is absolute, and so is the directory of the plan: the
root is the value as it stands where that is absolute, the value behind the directory where it is not, and the directory
itself where there is no value but a blank. -/
theorem last_bindings_decide (base : Bytes) :
    (∀ vars vars', (∀ name ∈ readVars, SameLast vars vars' name) → ofBindings vars base = ofBindings vars' base) ∧
    (∀ vars vars', SameLast vars vars' projectRootVar → SameLast vars vars' compileOptionsVar → ∀ r,
      let s := ofBindings vars base
      let s' := ofBindings vars' base
      InstallPlan.ofRequest r s.projectRoot s.compileArgs = InstallPlan.ofRequest r s'.projectRoot s'.compileArgs) ∧
    (∀ vars vars' : List (Text × Text),
      (vars.filter fun b => b.1 ∈ readVars) = (vars'.filter fun b => b.1 ∈ readVars) →
        ofBindings vars base = ofBindings vars' base) ∧
    (∀ vars name v, BoundLast vars name v → (∀ c ∈ v, isBlank c = true) →
      ofBindings vars base = ofBindings (vars.filter fun b => b.1 ≠ name) base) ∧
    (Path.isAbsolute base = true → ∀ vars,
      let root := (ofBindings vars base).projectRoot
      Path.isAbsolute root = true ∧
      (∀ r compileArgs, Path.isAbsolute (InstallPlan.ofRequest r root compileArgs).directory = true) ∧
      ((∀ v, BoundLast vars projectRootVar v → ∀ c ∈ v, isBlank c = true) → root = base) ∧
      ∀ v, BoundLast vars projectRootVar v → (∃ c ∈ v, isBlank c = false) →
        (Path.isAbsolute (utf8 v) = true → root = utf8 v) ∧
        (Path.isAbsolute (utf8 v) = false →
          root = if base.getLast? = some Path.slash then base ++ utf8 v else base ++ Path.slash :: utf8 v)) := by
  refine ⟨fun vars vars' h => ?_, fun vars vars' hr hc r => ?_, fun vars vars' h => ?_,
    fun vars name v hlast h => ofBindings_of_blank h hlast, fun hbase vars => ?_⟩
  · refine ofBindings_congr (lastBinding?_congr (h _ ?_)) (lastBinding?_congr (h _ ?_)) (lastBinding?_congr (h _ ?_))
    all_goals simp [readVars]
  · simp only [ofBindings, compileArgs, lastBinding?_congr hr, lastBinding?_congr hc]
  · have hread (name : Text) (hn : name ∈ readVars) : lastBinding? vars name = lastBinding? vars' name := by
      have hkept (l : List (Text × Text)) := lastBinding?_filter (fun n => n ∈ readVars) l name
      simp only [hn, decide_true, if_true] at hkept
      rw [← hkept vars, h, hkept vars']
    refine ofBindings_congr (hread _ ?_) (hread _ ?_) (hread _ ?_)
    all_goals simp [readVars]
  · have hne : base ≠ [] := by
      rintro rfl
      cases hbase
    have hroot := isAbsolute_projectRoot hbase vars
    refine ⟨hroot, fun r _ => Path.isAbsolute_join_of_isAbsolute hroot _, projectRoot_of_blank, fun v hlast hv => ?_⟩
    rw [projectRoot_of_boundLast hlast hv]
    exact ⟨Path.join_of_isAbsolute, Path.join_of_relative hne⟩

theorem last_bindings_decide_replaced :
    let blanked := [(projectRootVar, "/a".toList), ("HOME".toList, "/h".toList), (projectRootVar, "\u3000".toList)]
    let moved := [(projectRootVar, "/a".toList), (projectRootVar, " b".toList)]
    ofBindings blanked (utf8 "/w".toList) = ofBindings [] (utf8 "/w".toList) ∧
      (ofBindings moved (utf8 "/w".toList)).projectRoot = utf8 "/w/ b".toList ∧
      Path.isAbsolute (ofBindings moved (utf8 "/".toList)).projectRoot = true := by
  intro blanked moved
  obtain ⟨-, -, hothers, hblank, hroot⟩ := last_bindings_decide (utf8 "/w".toList)
  have hlast : BoundLast blanked projectRootVar "\u3000".toList := ⟨blanked.take 2, [], rfl, by simp⟩
  have hnone := hblank blanked projectRootVar _ hlast (List.all_eq_true.1 rfl)
  have hmoved : BoundLast moved projectRootVar " b".toList := ⟨moved.take 1, [], rfl, by simp⟩
  have hletter : ∃ c ∈ " b".toList, isBlank c = false := ⟨'b', by decide, rfl⟩
  refine ⟨hnone.trans (hothers _ _ (by decide)), ?_, ((last_bindings_decide (utf8 "/".toList)).2.2.2.2 rfl moved).1⟩
  exact ((hroot rfl moved).2.2.2 _ hmoved hletter).2 rfl

end Settings

end Slipway
