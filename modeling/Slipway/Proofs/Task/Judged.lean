import Slipway.Proofs.Machine.Alike
import Slipway.Proofs.Task.Prepared
set_option autoImplicit false

namespace Slipway

def Install.planned (s : Settings) (m : Machine) (r : InstallRequest) : Except Failure (Errand Unit) :=
  (checkRoot s m).map fun _ => errand s r

def Pack.planned (s : Settings) (today : Date) (m : Machine) (r : PackRequest) : Except Failure (Errand PackPlan) :=
  match m.canonical s.projectRoot with
  | .error c => .error (.atPath s.projectRoot c)
  | .ok root =>
    (PackPlan.ofRoot r.onlyCli root PackPlan.projectName today).map fun plan =>
      ⟨plan.directory, [plan.step], plan, farewell plan⟩

/-- What a preparation answers to what is planned, where `make` gets a directory ready. -/
inductive Errand.Judged {α : Type} (s : Settings) (m : Machine) (make : Bytes → Machine → Except Failure Machine)
    (planned : Except Failure (Errand α)) : Except Failure (Errand α) × Machine → Prop
  | unplanned {path : Bytes} {cause : Cause} {m' : Machine} (hp : planned = .error (.atPath path cause)) :
    Judged s m make planned (.error (.atPath path cause), m')
  | lacking {e : Errand α} {step : Step} {m' : Machine} (hp : planned = .ok e) (hskip : s.skipToolCheck = false)
    (hl : Tools.FirstToLack m e.steps step) :
    Judged s m make planned (.error (.toolMissing (lossy step.program) (Tools.providerOf (lossy step.program))), m')
  | blocked {e : Errand α} {path : Bytes} {cause : Cause} {m' : Machine} (hp : planned = .ok e)
    (ht : Tools.Allow s m e.steps) (hd : make e.directory m = .error (.atPath path cause)) :
    Judged s m make planned (.error (.atPath path cause), m')
  | ready {e : Errand α} {m' : Machine} (hp : planned = .ok e) (ht : Tools.Allow s m e.steps)
    (hd : Machine.AlikeAnswers (make e.directory m) (.ok m')) : Judged s m make planned (.ok e, m')

namespace Machine.Alike

variable {m m' : Machine} (h : Alike m m')
include h

theorem isDir (path : Bytes) : m'.isDir path = m.isDir path := isDir_congr h.tree h.place path

theorem isFile (path : Bytes) : m'.isFile path = m.isFile path := isFile_congr h.tree h.place path

theorem canonical (path : Bytes) : m'.canonical path = m.canonical path := canonical_congr h.tree h.place path

theorem planned_install (s : Settings) (r : InstallRequest) : Install.planned s m' r = Install.planned s m r := by
  rw [Install.planned, Install.planned, Install.checkRoot, Install.checkRoot, h.isDir, h.isFile]

theorem planned_pack (s : Settings) (today : Date) (r : PackRequest) :
    Pack.planned s today m' r = Pack.planned s today m r := by
  rw [Pack.planned, Pack.planned, h.canonical]

theorem prepareDir (dir : Bytes) : AlikeAnswers (Install.prepareDir dir m) (Install.prepareDir dir m') := by
  unfold Install.prepareDir
  rw [h.isDir]
  split
  · exact .ok h
  · have hm := h.makeDir dir
    generalize m.makeDir dir = made at hm ⊢
    generalize m'.makeDir dir = made' at hm ⊢
    cases hm with
    | error c => exact .error _
    | ok hm => exact .ok ⟨hm.tree, hm.place, hm.env⟩

theorem createNew (path : Bytes) : AlikeAnswers (Pack.createNew path m) (Pack.createNew path m') := by
  unfold Pack.createNew
  rw [h.tree, h.place]
  split
  · exact .ok ⟨rfl, rfl, h.env⟩
  · exact .error _
  · exact .error _

theorem probe (dir : Bytes) : AlikeAnswers (Pack.probe dir m) (Pack.probe dir m') := by
  have hpath : Pack.temporaryPath dir m' = Pack.temporaryPath dir m := by
    simp only [Pack.temporaryPath, Pack.firstFree, Pack.isTaken, h.currentDir?, h.tree, h.place]
  unfold Pack.probe
  rw [hpath]
  cases Pack.temporaryPath dir m with
  | error c => exact .error _
  | ok path =>
    have hc := h.createNew path
    dsimp only
    generalize Pack.createNew path m = made at hc ⊢
    generalize Pack.createNew path m' = made' at hc ⊢
    cases hc with
    | error c => exact .error _
    | @ok made made' hc =>
      have hr := hc.removeAll path
      dsimp only
      generalize made.removeAll path = removed at hr ⊢
      generalize made'.removeAll path = removed' at hr ⊢
      cases hr with
      | error c => exact .ok hc
      | ok hr => exact .ok hr

theorem judged {α : Type} {s : Settings} {make : Bytes → Machine → Except Failure Machine}
    {planned : Except Failure (Errand α)} {prepared : Except Failure (Errand α) × Machine}
    (hmake : ∀ dir, AlikeAnswers (make dir m) (make dir m')) (hj : Errand.Judged s m' make planned prepared) :
    Errand.Judged s m make planned prepared := by
  cases hj with
  | unplanned hp => exact .unplanned hp
  | lacking hp hskip hl => exact .lacking hp hskip (h.firstToLack ▸ hl)
  | blocked hp ht hd => exact .blocked hp (h.allow ▸ ht) ((hd ▸ hmake _).eq_error)
  | ready hp ht hd => exact .ready hp (h.allow ▸ ht) ((hmake _).trans hd)

end Machine.Alike

variable {s : Settings} {m m' : Machine}

namespace Errand

variable {α : Type} {e : Errand α} {make : Bytes → Machine → Except Failure Machine}

theorem judged_of_make (ht : Tools.Allow s m e.steps)
    (hmake : Machine.AlikeAnswers (make e.directory m) (make e.directory m'))
    (hf : ∀ f, make e.directory m' = .error f → ∃ path cause, f = .atPath path cause) :
    Judged s m make (.ok e)
      (match make e.directory m' with
      | .error f => (.error f, m')
      | .ok made => (.ok e, made)) := by
  cases hd : make e.directory m' with
  | error f =>
    obtain ⟨path, cause, rfl⟩ := hf f hd
    exact .blocked rfl ht (hd ▸ hmake).eq_error
  | ok made => exact .ready rfl ht (hd ▸ hmake)

namespace Judged

variable {planned : Except Failure (Errand α)} {ready : Except Failure (Errand α) × Machine}
  (hj : Judged s m make planned ready) (hp : planned = .ok e)
include hj hp

theorem eq_error_of_lacking {step : Step} (hskip : s.skipToolCheck = false)
    (hl : Tools.FirstToLack m e.steps step) :
    ready.1 = .error (.toolMissing (lossy step.program) (Tools.providerOf (lossy step.program))) := by
  cases hj with
  | unplanned hp' => cases hp.symm.trans hp'
  | lacking hp' _ hl' =>
    obtain rfl := Except.ok.inj (hp.symm.trans hp')
    rw [hl.unique hl']
  | blocked hp' ht => exact absurd (Except.ok.inj (hp.symm.trans hp') ▸ ht) (hl.not_allow hskip)
  | ready hp' ht => exact absurd (Except.ok.inj (hp.symm.trans hp') ▸ ht) (hl.not_allow hskip)

theorem eq_error_of_blocked {f : Failure} (ht : Tools.Allow s m e.steps) (hd : make e.directory m = .error f) :
    ready.1 = .error f := by
  cases hj with
  | unplanned hp' => cases hp.symm.trans hp'
  | lacking hp' hskip hl =>
    obtain rfl := Except.ok.inj (hp.symm.trans hp')
    exact absurd ht (hl.not_allow hskip)
  | blocked hp' _ hd' =>
    obtain rfl := Except.ok.inj (hp.symm.trans hp')
    exact congrArg Except.error (Except.error.inj (hd'.symm.trans hd))
  | ready hp' _ hd' =>
    obtain rfl := Except.ok.inj (hp.symm.trans hp')
    obtain ⟨made, hmade, -⟩ := hd'.exists_ok
    cases hd.symm.trans hmade

end Judged

end Errand

namespace Install

theorem atPath_of_checkRoot {f : Failure} (h : checkRoot s m = .error f) : ∃ path cause, f = .atPath path cause := by
  unfold checkRoot at h
  split at h
  · exact ⟨_, _, (Except.error.inj h).symm⟩
  · split at h
    · exact ⟨_, _, (Except.error.inj h).symm⟩
    · cases h

theorem atPath_of_prepareDir {dir : Bytes} {f : Failure} (h : prepareDir dir m = .error f) :
    ∃ path cause, f = .atPath path cause := by
  unfold prepareDir at h
  split at h
  · cases h
  · split at h
    · exact ⟨_, _, (Except.error.inj h).symm⟩
    · cases h

theorem judged (s : Settings) (r : InstallRequest) (m : Machine) :
    Errand.Judged s m prepareDir (planned s m r) (prepare s r m) := by
  unfold prepare planned
  cases hr : checkRoot s m with
  | error f =>
    obtain ⟨path, cause, rfl⟩ := atPath_of_checkRoot hr
    exact .unplanned rfl
  | ok _ =>
    dsimp only
    split
    case h_1 f m' hc =>
      obtain ⟨hskip, step, hl, rfl⟩ := Tools.requireFor_eq_error_iff.1 (congrArg Prod.fst hc)
      exact .lacking rfl hskip hl
    case h_2 m' hc =>
      have hlike := Tools.alike_requireFor hc
      have ht := Tools.requireFor_eq_ok_iff.1 (congrArg Prod.fst hc)
      exact Errand.judged_of_make (e := errand s r) ht (hlike.prepareDir _)
        fun _ => atPath_of_prepareDir

theorem steps_ne_nil {r : InstallRequest} {e : Errand Unit} (h : planned s m r = .ok e) : e.steps ≠ [] := by
  unfold planned at h
  cases hr : checkRoot s m with
  | error f =>
    rw [hr] at h
    cases h
  | ok _ =>
    rw [hr] at h
    cases h
    exact List.cons_ne_nil _ _

end Install

namespace Pack

theorem atPath_of_ofRoot {onlyCli : Bool} {root : Bytes} {project : Text} {d : Date} {f : Failure}
    (h : PackPlan.ofRoot onlyCli root project d = .error f) : ∃ path cause, f = .atPath path cause :=
  ⟨root, .noParent, PackPlan.eq_of_ofRoot_error h⟩

theorem atPath_of_probe {dir : Bytes} {f : Failure} (h : probe dir m = .error f) :
    ∃ path cause, f = .atPath path cause := by
  unfold probe at h
  split at h
  · exact ⟨_, _, (Except.error.inj h).symm⟩
  · split at h
    · exact ⟨_, _, (Except.error.inj h).symm⟩
    · split at h <;> cases h

theorem judged (s : Settings) (r : PackRequest) (today : Date) (m : Machine) :
    Errand.Judged s m probe (planned s today m r) (prepare s r today m) := by
  unfold prepare planned
  cases m.canonical s.projectRoot with
  | error c => exact .unplanned rfl
  | ok root =>
    dsimp only
    cases hr : PackPlan.ofRoot r.onlyCli root PackPlan.projectName today with
    | error f =>
      obtain ⟨path, cause, rfl⟩ := atPath_of_ofRoot hr
      exact .unplanned rfl
    | ok plan =>
      dsimp only
      split
      case h_1 f m' hc =>
        obtain ⟨hskip, step, hl, rfl⟩ := Tools.requireFor_eq_error_iff.1 (congrArg Prod.fst hc)
        exact .lacking rfl hskip hl
      case h_2 m' hc =>
        have hlike := Tools.alike_requireFor hc
        have ht := Tools.requireFor_eq_ok_iff.1 (congrArg Prod.fst hc)
        exact Errand.judged_of_make (e := ⟨plan.directory, [plan.step], plan, farewell plan⟩) ht (hlike.probe _)
          fun _ => atPath_of_probe

theorem steps_ne_nil {today : Date} {r : PackRequest} {e : Errand PackPlan} (h : planned s today m r = .ok e) :
    e.steps ≠ [] := by
  unfold planned at h
  split at h
  · cases h
  · rename_i root _
    cases hr : PackPlan.ofRoot r.onlyCli root PackPlan.projectName today with
    | error f =>
      rw [hr] at h
      cases h
    | ok plan =>
      rw [hr] at h
      cases h
      exact List.cons_ne_nil _ _

end Pack

end Slipway
