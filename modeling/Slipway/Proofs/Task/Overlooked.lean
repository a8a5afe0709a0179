import Mathlib.Data.List.Find
import Slipway.Proofs.Machine.Growth
import Slipway.Proofs.Task.Lockstep
import Slipway.Proofs.Task.Roots
set_option autoImplicit false

namespace Slipway

variable {σ α : Type} {l : Location} {told : Prop} {m m' : Machine}

section Checks

variable {ex : Runner σ} {state : σ} {s : Settings}

structure AnswersSameBut (l : Location) (told : Prop) (r r' : α × Machine) : Prop where
  answer : r'.1 = r.1
  machine : r.2.SameBut l told r'.2

theorem Tools.requireAll_sameBut (h : m.SameBut l told m') (cs : List Check) :
    AnswersSameBut l told (requireAll cs m) (requireAll cs m') := by
  induction cs generalizing m m' with
  | nil => exact ⟨rfl, h⟩
  | cons c rest ih =>
    unfold requireAll
    cases c.path with
    | none => exact ⟨rfl, h.emit _⟩
    | some path => exact ih (h.emit _)

theorem Tools.requireFor_sameBut (h : m.SameBut l told m') (steps : List Step) :
    AnswersSameBut l told (requireFor s steps m) (requireFor s steps m') := by
  have hchecks : checks m' steps = checks m steps := by
    rw [checks, checks]
    congr 1
    funext program
    rw [check, check, h.findProgram?]
  unfold requireFor require
  rw [hchecks]
  split
  · exact ⟨rfl, h⟩
  · exact requireAll_sameBut h _

theorem Install.isDir_made {root : Bytes} {q : Place} (hr : m.locate root = .ok (.dir q))
    (hf : m.isFile (Path.join root projectFile) = true)
    (hfree : m.tree.node? (q.location ++ [InstallPlan.directoryName]) = none) :
    Machine.isDir { m with tree := m.tree.insert (q.location ++ [InstallPlan.directoryName]) .dir }
      (Path.join root InstallPlan.directoryName) = true := by
  obtain ⟨hproper, hstanding⟩ := proper_of_project hr hf
  have hroot := Tree.locate_within (Tree.within_insert .dir hfree) (by simp) hr
  obtain ⟨links, hlinks⟩ := Tree.locate_join hroot isName_directoryName hproper true
  have hself := Tree.node?_insert_self m.tree _ .dir (Tree.ne_nil_of_node? hfree) hfree
  have hstands : Spot.Stands (m.tree.insert (q.location ++ [InstallPlan.directoryName]) .dir) true 0
      (.dir (q.down InstallPlan.directoryName)) := ⟨hself, Nat.le_of_eq hstanding⟩
  refine Machine.isDir_iff.2 ⟨q.down InstallPlan.directoryName, ?_⟩
  rw [Machine.locate, hlinks, Tree.walk_name ⟨by decide, rfl, hstanding⟩ hstands rfl (by simp)]
  rfl

theorem Install.prepareDir_sameBut {here : Location} {n root : Bytes} {q : Place} (h : m.SameBut (here ++ [n]) told m')
    (hn : n ≠ InstallPlan.directoryName) (hr : m.locate root = .ok (.dir q))
    (hf : m.isFile (Path.join root projectFile) = true) (hf' : m'.isFile (Path.join root projectFile) = true) :
    let dir := Path.join root InstallPlan.directoryName
    (∃ f, prepareDir dir m = .error f ∧ prepareDir dir m' = .error f) ∨
      ∃ made made', prepareDir dir m = .ok made ∧ prepareDir dir m' = .ok made' ∧
        made.SameBut (here ++ [n]) told made' ∧ made.isDir dir = true := by
  intro dir
  by_cases hd : m.isDir dir = true
  · have hd' : m'.isDir dir = true := by rw [h.isDir, hd]
    exact .inr ⟨m, m', if_pos hd, if_pos hd', h, hd⟩
  · have hd := Bool.eq_false_iff.2 hd
    have hd' : m'.isDir dir = false := by rw [h.isDir, hd]
    have hr' : m'.locate root = .ok (.dir q) := h.locate_dir_iff.2 hr
    have hsite : q.location ++ [InstallPlan.directoryName] ≠ here ++ [n] := fun he =>
      hn (List.append_singleton_inj.1 he).2.symm
    have hmade' := makeDir_eq hr' hf'
    rw [prepareDir_of_not_isDir hr hf hd, prepareDir_of_not_isDir hr' hf' hd']
    rw [h.tree.other _ hsite] at hmade' ⊢
    cases hnode : m.tree.node? (q.location ++ [InstallPlan.directoryName]) with
    | some node => exact .inl ⟨_, rfl, rfl⟩
    | none =>
      rw [hnode] at hmade'
      have hinserted : Machine.SameBut (here ++ [n]) told
          { m with tree := m.tree.insert (q.location ++ [InstallPlan.directoryName]) .dir }
          { m' with tree := m'.tree.insert (q.location ++ [InstallPlan.directoryName]) .dir } :=
        ⟨h.tree.insert hsite hnode .dir, h.place, h.env, h.out, h.log, h.sound.makeDir hmade'⟩
      exact .inr ⟨_, _, rfl, rfl, hinserted.printLine _, isDir_made hr hf hnode⟩

end Checks

section Tasks

variable {ex : Runner σ} {state : σ} {s : Settings} {here : Location} {n : Bytes}
  (h : m.SameBut (here ++ [n]) told m')
include h

theorem Install.prepare_sameBut {r : InstallRequest} (hn : n ≠ InstallPlan.directoryName)
    (hproject : m'.isFile (Path.join s.projectRoot projectFile) = m.isFile (Path.join s.projectRoot projectFile)) :
    AnswersSameBut (here ++ [n]) told (prepare s r m) (prepare s r m') ∧
      ∀ e, (prepare s r m).1 = .ok e → (prepare s r m).2.isDir e.directory = true := by
  by_cases hd : m.isDir s.projectRoot = true
  case neg =>
    have hd := Bool.eq_false_iff.2 hd
    rw [prepare_of_not_isDir hd, prepare_of_not_isDir (by rw [h.isDir, hd])]
    exact ⟨⟨rfl, h⟩, fun e he => by cases he⟩
  by_cases hf : m.isFile (Path.join s.projectRoot projectFile) = true
  case neg =>
    have hf := Bool.eq_false_iff.2 hf
    rw [prepare_of_not_isFile hd hf, prepare_of_not_isFile (by rw [h.isDir, hd]) (by rw [hproject, hf])]
    exact ⟨⟨rfl, h⟩, fun e he => by cases he⟩
  obtain ⟨q, hq⟩ := Machine.isDir_iff.1 hd
  have hroot : checkRoot s m = .ok () := by simp [checkRoot, hd, hf]
  have hroot' : checkRoot s m' = .ok () := by simp [checkRoot, h.isDir, hproject, hd, hf]
  have hchecked := Tools.requireFor_sameBut (s := s) h (plan s r).steps
  simp only [prepare, hroot, hroot']
  rcases hc : Tools.requireFor s (plan s r).steps m with ⟨result, checked⟩
  rcases hc' : Tools.requireFor s (plan s r).steps m' with ⟨result', checked'⟩
  rw [hc, hc'] at hchecked
  obtain ⟨hresult, hmachine⟩ := hchecked
  obtain rfl : result' = result := hresult
  cases result' with
  | error f => exact ⟨⟨rfl, hmachine⟩, fun e he => by cases he⟩
  | ok _ =>
    have htree := Machine.quiet_tree.requireFor hc
    have hplace := Machine.quiet_place.requireFor hc
    have htree' := Machine.quiet_tree.requireFor hc'
    have hplace' := Machine.quiet_place.requireFor hc'
    have hq' : checked.locate s.projectRoot = .ok (.dir q) := by rw [Machine.locate_congr htree hplace, hq]
    rcases prepareDir_sameBut hmachine hn hq' (by rw [Machine.isFile_congr htree hplace, hf])
        (by rw [Machine.isFile_congr htree' hplace', hproject, hf]) with
      ⟨f, hmade, hmade'⟩ | ⟨made, made', hmade, hmade', hsame, hisdir⟩
    · simp only [plan, InstallPlan.ofRequest, hmade, hmade']
      exact ⟨⟨rfl, hmachine⟩, fun e he => by cases he⟩
    · simp only [plan, InstallPlan.ofRequest, hmade, hmade']
      refine ⟨⟨rfl, hsame⟩, fun e he => ?_⟩
      obtain rfl := Except.ok.inj he
      exact hisdir

theorem install_sameBut {r : InstallRequest} (hplace : m.place = ⟨here, 0⟩)
    (hproper : Tree.Proper (Location.path here)) (hn : n ≠ InstallPlan.directoryName)
    (hproject : m'.isFile (Path.join s.projectRoot Install.projectFile) =
      m.isFile (Path.join s.projectRoot Install.projectFile))
    (hover : Overlooked (here ++ [n]) told (install s r ex.traced (state, []) m) (install s r ex.traced (state, []) m')) :
    InLockstep (here ++ [n]) told (install s r ex.traced (state, []) m) (install s r ex.traced (state, []) m') := by
  obtain ⟨hready, hisdir⟩ := Install.prepare_sameBut (r := r) h hn hproject
  rw [install_eq, install_eq] at hover ⊢
  exact Errand.carryOut_sameBut hready.answer hready.machine ((Install.place_prepare s r m).trans hplace) hproper hisdir
    hover

end Tasks

section Probe

variable {here k : Location} {n : Bytes} (h : m.SameBut (here ++ [n]) told m') (hk : m.tree.node? k = some .dir)
  (hn : ∀ j, n ≠ Pack.temporaryName j)
include h hk hn

theorem Pack.locate_temporary (j : Nat) :
    m'.tree.locate false m'.place (Path.join (Location.path k) (temporaryName j)) =
      m.tree.locate false m.place (Path.join (Location.path k) (temporaryName j)) := by
  rw [h.place]
  exact h.tree.locate_entry h.sound.tree hk (isName_temporaryName j)
    (fun heq => hn j (List.append_singleton_inj.1 heq).2.symm) m.place

theorem Pack.firstFree_sameBut : firstFree (Location.path k) m' = firstFree (Location.path k) m := by
  have htaken (j : Nat) : isTaken (Path.join (Location.path k) (temporaryName j)) m' =
      isTaken (Path.join (Location.path k) (temporaryName j)) m := by
    rw [isTaken, isTaken, locate_temporary h hk hn]
  have hne : Location.path k ≠ [] := List.cons_ne_nil _ _
  simpa only [firstFree_eq_iff hne, htaken] using (firstFree_eq_iff hne).1 (rfl : firstFree (Location.path k) m = _)

theorem Pack.probe_sameBut :
    (∃ f, probe (Location.path k) m = .error f ∧ probe (Location.path k) m' = .error f) ∨
      probe (Location.path k) m = .ok m ∧ probe (Location.path k) m' = .ok m' := by
  have habsolute : Path.isAbsolute (Location.path k) = true := rfl
  have hpath := temporaryPath_eq habsolute m
  have hpath' := temporaryPath_eq habsolute m'
  rw [firstFree_sameBut h hk hn] at hpath'
  have hlocate := locate_temporary h hk hn (firstFree (Location.path k) m)
  cases hl : m.tree.locate false m.place (Path.join (Location.path k) (temporaryName (firstFree (Location.path k) m))) with
  | error c =>
    rw [hl] at hlocate
    exact .inl ⟨_, by simp only [probe, createNew, hpath, hl]; rfl, by simp only [probe, createNew, hpath', hlocate]⟩
  | ok spot =>
    obtain ⟨j, rfl⟩ := locate_temporaryPath habsolute hl
    rw [hl] at hlocate
    exact .inr ⟨probe_of_free h.sound_left.tree.closed hpath hl, probe_of_free h.sound.tree.closed hpath' hlocate⟩

end Probe

section Packing

variable {ex : Runner σ} {state : σ} {s : Settings} {here : Location} {n : Bytes}
  (h : m.SameBut (here ++ [n]) told m') (hn : ∀ j, n ≠ Pack.temporaryName j)
  (hroot : m'.canonical s.projectRoot = m.canonical s.projectRoot)
include h hn hroot

theorem Pack.prepare_sameBut (r : PackRequest) (today : Date) :
    AnswersSameBut (here ++ [n]) told (prepare s r today m) (prepare s r today m') ∧
      ∀ e, (prepare s r today m).1 = .ok e → (prepare s r today m).2.isDir e.directory = true := by
  unfold prepare
  rw [hroot]
  cases hc : m.canonical s.projectRoot with
  | error c => exact ⟨⟨rfl, h⟩, fun e he => by cases he⟩
  | ok root =>
    dsimp only
    cases hplan : PackPlan.ofRoot r.onlyCli root PackPlan.projectName today with
    | error f => exact ⟨⟨rfl, h⟩, fun e he => by cases he⟩
    | ok plan =>
      obtain ⟨k, hk, hdir⟩ := directory_of_plan h.sound_left hc hplan
      have hchecked := Tools.requireFor_sameBut h (s := s) [plan.step]
      dsimp only
      rcases ht : Tools.requireFor s [plan.step] m with ⟨result, checked⟩
      rcases ht' : Tools.requireFor s [plan.step] m' with ⟨result', checked'⟩
      rw [ht, ht'] at hchecked
      obtain ⟨hresult, hmachine⟩ := hchecked
      obtain rfl : result' = result := hresult
      cases result' with
      | error f => exact ⟨⟨rfl, hmachine⟩, fun e he => by cases he⟩
      | ok _ =>
        have hdir' : checked.tree.node? k = some .dir := by rw [Machine.quiet_tree.requireFor ht, hdir]
        dsimp only
        rw [hk]
        rcases probe_sameBut hmachine hdir' hn with ⟨f, hprobe, hprobe'⟩ | ⟨hprobe, hprobe'⟩
        · rw [hprobe, hprobe']
          exact ⟨⟨rfl, hmachine⟩, fun e he => by cases he⟩
        · have hproper : Tree.Proper (Location.path k) := proper_of_probe rfl hprobe
          rw [hprobe, hprobe']
          refine ⟨⟨rfl, hmachine⟩, fun e he => ?_⟩
          obtain rfl := Except.ok.inj he
          exact Machine.isDir_iff.2 ⟨_, Tree.locate_path hmachine.sound_left.tree hdir' hproper⟩

theorem pack_sameBut {r : PackRequest} {today : Date} (hplace : m.place = ⟨here, 0⟩)
    (hproper : Tree.Proper (Location.path here))
    (hover : Overlooked (here ++ [n]) told (pack s r today ex.traced (state, []) m)
      (pack s r today ex.traced (state, []) m')) :
    InLockstep (here ++ [n]) told (pack s r today ex.traced (state, []) m)
      (pack s r today ex.traced (state, []) m') := by
  obtain ⟨hready, hisdir⟩ := Pack.prepare_sameBut h hn hroot r today
  rw [pack_eq, pack_eq] at hover ⊢
  exact Errand.carryOut_sameBut hready.answer hready.machine ((Pack.place_prepare s r today m).trans hplace) hproper hisdir
    hover

end Packing

end Slipway
