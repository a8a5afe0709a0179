import Slipway.Proofs.Task.Packing
set_option autoImplicit false

namespace Slipway

namespace Machine

variable {m : Machine} {root : Bytes}

theorem pathLimit_lt_of_resolve {p : Place} (hd : m.isDir root = false)
    (hr : m.tree.resolve m.place root = .ok (.dir p)) : Tree.pathLimit < root.length := by
  refine Nat.lt_of_not_le fun hle => ?_
  have hproper : Tree.Proper root := by
    unfold Tree.resolve at hr
    split at hr
    · cases hr
    next hclean =>
      split at hr
      · cases hr
      next hne => exact ⟨by simpa using hclean, hne, hle⟩
  have hlocate : m.locate root = .ok (.dir p) := by
    rw [locate, Tree.locate_eq hproper, Tree.walk_reaching (Tree.walk_of_resolve hr)]
    rfl
  rw [isDir_iff.2 ⟨p, hlocate⟩] at hd
  cases hd

end Machine

namespace Errand

variable {σ α : Type} {ex : Runner σ} {state : σ} {e : Errand α} {m inside : Machine} {way : WayBack}

theorem handed_of_entered (he : Run.enter m e.directory = .ok (way, inside)) (hne : e.steps ≠ []) :
    (carryOut (perform ex.traced) (state, []) (.ok e, m)).2.1.2 ≠ [] := by
  obtain ⟨seen, hperform, -, hentered⟩ := perform_traced ex e.directory e.steps state [] m
  obtain ⟨hstate, -, -⟩ := carryOut_rest (perform ex.traced) (state, []) e m
  rw [hstate, hperform, List.nil_append]
  rw [he] at hentered
  rintro rfl
  exact hne (hentered.1.to_the_end (by simp)).symm

end Errand

namespace Pack

variable {σ : Type} {s : Settings} {r : PackRequest} {today : Date} {ex : Runner σ} {state : σ} {m : Machine}

section Plan

variable {root : Bytes} {plan : PackPlan} (hm : m.Sound) (hroot : m.canonical s.projectRoot = .ok root)
  (hplan : PackPlan.ofRoot r.onlyCli root PackPlan.projectName today = .ok plan)
include hm hroot hplan

/-- The directory of a plan is there, though its path may be too long to be asked for. -/
theorem directory_of_plan : ∃ l, plan.directory = Location.path l ∧ m.tree.node? l = some .dir := by
  obtain ⟨spot, hfor⟩ := exists_isFor hm hroot hplan
  exact ⟨_, hfor.directory, hfor.parent⟩

theorem handed_iff (ex : Runner σ) (state : σ) :
    (pack s r today ex.traced (state, []) m).2.1.2 ≠ [] ↔
      Tools.Allow s m [plan.step] ∧ (∃ made, probe plan.directory m = .ok made) ∧ m.currentDir? ≠ none := by
  have hplanned : planned s today m r = .ok ⟨plan.directory, [plan.step], plan, farewell plan⟩ := by
    simp only [planned, hroot, hplan, Except.map]
  have hjudged := judged s r today m
  have hlike := alike_prepare hm.tree.closed s r today
  rw [pack_eq]
  rcases hp : prepare s r today m with ⟨ready, m'⟩
  rw [hp] at hjudged hlike
  constructor
  · intro hne
    obtain ⟨h, hh⟩ := List.exists_mem_of_ne_nil _ hne
    obtain ⟨e, way, inside, hunder⟩ := Errand.handed_over hh
    obtain ⟨p, event, hhere, -⟩ := Run.of_enter_eq_ok hunder.entered
    obtain rfl : ready = .ok e := hunder.prepared
    cases hjudged with
    | ready hplanned' ht hd =>
      obtain rfl := Except.ok.inj (hplanned.symm.trans hplanned')
      obtain ⟨made, hmade, -⟩ := hd.exists_ok
      exact ⟨ht, ⟨made, hmade⟩, by rw [← hlike.currentDir?, hhere]; exact Option.some_ne_none _⟩
  · rintro ⟨ht, ⟨made, hmade⟩, hhere⟩
    obtain ⟨here, hhere⟩ := Option.ne_none_iff_exists'.1 hhere
    cases hjudged with
    | unplanned hplanned' => cases hplanned.symm.trans hplanned'
    | lacking hplanned' hskip hl =>
      obtain rfl := Except.ok.inj (hplanned.symm.trans hplanned')
      exact absurd ht (hl.not_allow hskip)
    | blocked hplanned' _ hd =>
      obtain rfl := Except.ok.inj (hplanned.symm.trans hplanned')
      cases hd.symm.trans hmade
    | ready hplanned' =>
      obtain rfl := Except.ok.inj (hplanned.symm.trans hplanned')
      obtain ⟨l, hl, hdir⟩ := directory_of_plan hm hroot hplan
      have hproper : Tree.Proper (Location.path l) := proper_of_probe rfl (hl ▸ hmade)
      have hlocate : m'.locate plan.directory = .ok (.dir ⟨l, 0⟩) := by
        rw [hlike.locate, hl]
        exact Tree.locate_path hm.tree hdir hproper
      have hhere' : m'.currentDir? = some here := by rw [hlike.currentDir?, hhere]
      obtain ⟨event, hentered⟩ := Run.enter_eq_ok hhere' hlocate
      exact Errand.handed_of_entered hentered (List.cons_ne_nil _ _)

end Plan

/-- A root that is no directory, for both tasks.  Installing refuses it, whatever else there is.  Packing refuses it when it
has no canonical path.  But where it leads to an object that is no directory, or its path is too long for installing to
look at, and there is a plan, packing hands the plan's step over as it does for a directory, and that step archives the
object. -/
theorem pack_of_refused_root (hm : m.Sound) (hd : m.isDir s.projectRoot = false) (r : PackRequest) (today : Date)
    (ex : Runner σ) (state : σ) :
    let run := pack s r today ex.traced (state, []) m
    (∀ (τ : Type) (request : InstallRequest) (ex' : Runner τ) (state' : τ),
      install s request ex'.traced (state', []) m =
        (.error (.atPath s.projectRoot .noProjectRoot), (state', []), m)) ∧
    (∀ c, m.canonical s.projectRoot = .error c → run = (.error (.atPath s.projectRoot c), (state, []), m)) ∧
    ∀ root, m.canonical s.projectRoot = .ok root →
      ∃ spot, m.tree.resolve m.place s.projectRoot = .ok spot ∧ root = Location.path spot.location ∧
        ((∃ p, spot = .dir p) → Tree.pathLimit < s.projectRoot.length) ∧
        (spot.location = [] → run = (.error (.atPath root .noParent), (state, []), m)) ∧
        (spot.location ≠ [] → ∃ plan, PackPlan.ofRoot r.onlyCli root PackPlan.projectName today = .ok plan ∧
          (run.2.1.2 ≠ [] ↔
            Tools.Allow s m [plan.step] ∧ (∃ made, probe plan.directory m = .ok made) ∧ m.currentDir? ≠ none) ∧
          ∀ h ∈ run.2.1.2, Archives s r today m h plan) := by
  intro run
  refine ⟨fun τ request ex' state' => ?_, fun c hc => ?_, fun root hroot => ?_⟩
  · rw [install_eq, Install.prepare_of_not_isDir hd]
    rfl
  · simp only [run, pack_eq, prepare, hc, Errand.carryOut]
  · obtain ⟨spot, hspot, rfl, hfree⟩ := Machine.resolve_of_canonical hroot
    have hthere := (hm.stands_of_canonical hroot hspot).node?_ne_none hfree
    refine ⟨spot, hspot, rfl, ?_, fun hnil => ?_, fun hne => ?_⟩
    · rintro ⟨p, rfl⟩
      exact Machine.pathLimit_lt_of_resolve hd hspot
    · have hnone : PackPlan.ofRoot r.onlyCli (Location.path spot.location) PackPlan.projectName today =
          .error (.atPath (Location.path spot.location) .noParent) := by
        rw [hnil]
        rfl
      simp only [run, pack_eq, prepare, hroot, hnone, Errand.carryOut]
    · have hplan : ∃ plan, PackPlan.ofRoot r.onlyCli (Location.path spot.location) PackPlan.projectName today =
          .ok plan := by
        rw [← List.dropLast_concat_getLast hne]
        exact ⟨_, PackPlan.ofRoot_path fun n hn =>
          (hm.tree.named _ hthere n (List.dropLast_concat_getLast hne ▸ hn)).toIsName⟩
      obtain ⟨plan, hplan⟩ := hplan
      refine ⟨plan, hplan, handed_iff hm hroot hplan ex state, fun h hh => ?_⟩
      obtain ⟨-, ⟨f, m', hrun, -⟩ | ⟨k, plan', hseen, harchives, -⟩⟩ := handed_or_unchanged hm s r today ex state
      · simp [run, hrun] at hh
      · simp only [run, hseen, List.mem_singleton] at hh
        obtain ⟨root', hroot', hplan'⟩ := harchives.planned
        obtain rfl := Except.ok.inj (hroot.symm.trans hroot')
        obtain rfl := Except.ok.inj (hplan.symm.trans hplan')
        exact hh ▸ harchives

def deviceRoot : Machine :=
  .ofFiles [(["d"], .dir), (["d", "null"], .device), (["s"], .link (utf8 "d/../d/null".toList))]

theorem pack_of_refused_root_device :
    let today : Date := ⟨2024, 3, 5, by decide, by decide, by decide, by decide, by decide, by decide⟩
    let s : Settings := ⟨utf8 "s".toList, none, true⟩
    deviceRoot.Sound ∧ deviceRoot.isDir s.projectRoot = false ∧
      ∃ h ∈ (pack s ⟨false⟩ today Runner.rehearsed.traced ([], []) deviceRoot).2.1.2,
        h.given.2.locate (utf8 "null".toList) = .ok (.device [utf8 "d".toList, utf8 "null".toList]) := by
  intro today s
  have hsound : deviceRoot.Sound := ⟨Tree.sound_of_entries (by decide), rfl⟩
  have hd : deviceRoot.isDir s.projectRoot = false := by decide
  have hroot : deviceRoot.canonical s.projectRoot = .ok (utf8 "/d/null".toList) := rfl
  have hresolve : deviceRoot.tree.resolve deviceRoot.place s.projectRoot =
      .ok (.device [utf8 "d".toList, utf8 "null".toList]) := rfl
  obtain ⟨-, -, haccepted⟩ := pack_of_refused_root hsound hd ⟨false⟩ today Runner.rehearsed []
  obtain ⟨spot, hspot, -, -, -, hplans⟩ := haccepted _ hroot
  obtain rfl := Except.ok.inj (hspot.symm.trans hresolve)
  obtain ⟨plan, hplan, hhanded, harchives⟩ := hplans (by decide)
  obtain rfl := Except.ok.inj hplan
  have htemporary : temporaryPath (utf8 "/d".toList) deviceRoot =
      .ok (utf8 "/d/.fofimon-write-checkXXXXXX".toList) := rfl
  have hprobe := probe_of_free hsound.tree.closed htemporary rfl
  obtain ⟨h, hh⟩ := List.exists_mem_of_ne_nil _ (hhanded.2 ⟨.inl rfl, ⟨_, hprobe⟩, by decide⟩)
  obtain ⟨spot, hspot, hlocate, -⟩ := (harchives h hh).same
  obtain rfl := Except.ok.inj (hspot.symm.trans hresolve)
  exact ⟨hsound, hd, h, hh, hlocate⟩

/-- A file is no project root to build, and yet it is archived. -/
theorem file_archived_as_project :
    let today : Date := ⟨2024, 3, 5, by decide, by decide, by decide, by decide, by decide, by decide⟩
    let s : Settings := ⟨utf8 "/p".toList, none, true⟩
    let m : Machine := .ofFiles [(["p"], .file false (utf8 "x\n".toList))]
    let request : InstallRequest := ⟨.release, .cache, defaultInstallRoot, false⟩
    (install s request Runner.rehearsed [] m).1 = .error (.atPath (utf8 "/p".toList) .noProjectRoot) ∧
      (pack s ⟨false⟩ today Runner.rehearsed [] m).1.toOption.map PackPlan.member = some (utf8 "p".toList) ∧
      (pack s ⟨false⟩ today Runner.rehearsed.traced ([], []) m).2.1.2.map (·.step.program) = [utf8 "tar".toList] := by
  intro today s m request
  have hd : m.isDir s.projectRoot = false := by decide
  refine ⟨?_, by decide +kernel, by decide +kernel⟩
  rw [install_eq, Install.prepare_of_not_isDir hd]
  rfl

end Pack

end Slipway
