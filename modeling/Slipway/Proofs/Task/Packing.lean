import Slipway.Proofs.Machine.Canonical
import Slipway.Proofs.Task.Judged
set_option autoImplicit false

namespace Slipway

namespace PackPlan

variable {onlyCli : Bool} {project : Text} {d : Date}

theorem ofRoot_path {l : Location} {n : Bytes} (h : ∀ m ∈ l ++ [n], Path.IsName m) :
    ofRoot onlyCli (Location.path (l ++ [n])) project d =
      .ok ⟨onlyCli, omittedFor onlyCli, fileNameFor project d, n, Location.path l⟩ := by
  have hsplit : Path.split? (Location.path (l ++ [n])) = some (Location.path l, .name n) := Path.split?_ofNames h
  rw [ofRoot, hsplit]
  exact if_neg (by simp [Location.path])

theorem of_ofRoot_path {l : Location} {plan : PackPlan} (h : ∀ n ∈ l, Path.IsName n)
    (hp : ofRoot onlyCli (Location.path l) project d = .ok plan) :
    l = l.dropLast ++ [plan.member] ∧ plan.directory = Location.path l.dropLast := by
  rcases List.eq_nil_or_concat l with rfl | ⟨front, n, rfl⟩
  · cases hp
  · rw [List.concat_eq_append] at h hp ⊢
    rw [ofRoot_path h] at hp
    cases hp
    rw [List.dropLast_concat]
    exact ⟨rfl, rfl⟩

theorem getLast?_argv_step (p : PackPlan) : p.step.argv.getLast? = some p.member :=
  List.getLast?_concat ..

end PackPlan

namespace Pack

variable {σ : Type} {s : Settings} {r : PackRequest} {today : Date} {ex : Runner σ} {state : σ} {m m' : Machine}

theorem exists_plan_of_planned {e : Errand PackPlan} (h : planned s today m r = .ok e) :
    ∃ root plan, m.canonical s.projectRoot = .ok root ∧
      PackPlan.ofRoot r.onlyCli root PackPlan.projectName today = .ok plan ∧
      e = ⟨plan.directory, [plan.step], plan, farewell plan⟩ := by
  unfold planned at h
  split at h
  · cases h
  next root hroot =>
    cases hplan : PackPlan.ofRoot r.onlyCli root PackPlan.projectName today with
    | error f =>
      rw [hplan] at h
      cases h
    | ok plan =>
      rw [hplan] at h
      exact ⟨root, plan, hroot, hplan, (Except.ok.inj h).symm⟩

theorem alike_prepare (ht : m.tree.Closed) (s : Settings) (r : PackRequest) (today : Date) :
    m.Alike (prepare s r today m).2 := by
  unfold prepare
  split
  · exact .refl m
  · split
    · exact .refl m
    · split
      case h_1 hc => exact Tools.alike_requireFor hc
      case h_2 checked hc =>
        have hlike := Tools.alike_requireFor hc
        split
        · exact hlike
        next probed hprobe =>
          obtain ⟨rfl, -⟩ := eq_of_probe (by rw [hlike.tree]; exact ht) hprobe
          exact hlike

/-- The step that packing hands over: the archive of what the project root leads to. -/
structure Archives (s : Settings) (r : PackRequest) (today : Date) (m : Machine) (h : Handover σ) (plan : PackPlan) :
    Prop where
  planned : ∃ root, m.canonical s.projectRoot = .ok root ∧
    PackPlan.ofRoot r.onlyCli root PackPlan.projectName today = .ok plan
  step : h.step = plan.step
  start : h.given.2.currentDir? = some plan.directory
  files : h.given.2.tree = m.tree
  member : h.step.argv.getLast? = some plan.member
  same : ∃ spot, m.tree.resolve m.place s.projectRoot = .ok spot ∧ h.given.2.locate plan.member = .ok spot ∧
    ∀ spot', m.locate s.projectRoot = .ok spot' → spot' = spot

theorem Archives.unique {h h' : Handover σ} {plan plan' : PackPlan} (ha : Archives s r today m h plan)
    (ha' : Archives s r today m h' plan') : plan = plan' := by
  obtain ⟨root, hroot, hplan⟩ := ha.planned
  obtain ⟨root', hroot', hplan'⟩ := ha'.planned
  obtain rfl := Except.ok.inj (hroot.symm.trans hroot')
  exact Except.ok.inj (hplan.symm.trans hplan')

/-- What a plan is made for: the entry of that name in the directory that it names, which is there. -/
structure IsFor (plan : PackPlan) (s : Settings) (m : Machine) (spot : Spot) : Prop where
  resolved : m.tree.resolve m.place s.projectRoot = .ok spot
  stands : spot.Stands m.tree true 0
  taken : ∀ l, spot ≠ .free l
  location : spot.location = spot.location.dropLast ++ [plan.member]
  directory : plan.directory = Location.path spot.location.dropLast
  parent : m.tree.node? spot.location.dropLast = some .dir
  named : Path.IsEntryName plan.member

theorem exists_isFor {plan : PackPlan} {root : Bytes} (hm : m.Sound) (hroot : m.canonical s.projectRoot = .ok root)
    (hplan : PackPlan.ofRoot r.onlyCli root PackPlan.projectName today = .ok plan) : ∃ spot, IsFor plan s m spot := by
  obtain ⟨spot, hspot, rfl, hfree⟩ := Machine.resolve_of_canonical hroot
  have hstands := hm.stands_of_canonical hroot hspot
  have hthere := hstands.node?_ne_none hfree
  have hnames := hm.tree.named _ hthere
  obtain ⟨hlocation, hdirectory⟩ := PackPlan.of_ofRoot_path (fun n hn => (hnames n hn).toIsName) hplan
  exact ⟨spot, hspot, hstands, hfree, hlocation, hdirectory, hm.tree.closed _ plan.member (hlocation ▸ hthere),
    hnames _ (by rw [hlocation]; simp)⟩

theorem archives_of_entered {plan : PackPlan} {root : Bytes} {p : Place} {h : Handover σ} (hm : m.Sound)
    (hroot : m.canonical s.projectRoot = .ok root)
    (hplan : PackPlan.ofRoot r.onlyCli root PackPlan.projectName today = .ok plan)
    (hp : m.locate plan.directory = .ok (.dir p)) (hstep : h.step = plan.step) (hplace : h.given.2.place = p)
    (htree : h.given.2.tree = m.tree) : Archives s r today m h plan := by
  obtain ⟨spot, hfor⟩ := exists_isFor hm hroot hplan
  have hproper := Tree.proper_of_locate hp
  rw [hfor.directory] at hp hproper
  obtain rfl := Spot.dir.inj (Except.ok.inj ((Tree.locate_path hm.tree hfor.parent hproper).symm.trans hp))
  refine ⟨⟨_, hroot, hplan⟩, hstep, ?_, htree, ?_, spot, hfor.resolved, ?_, fun _ => Machine.eq_of_resolve hfor.resolved⟩
  · rw [Machine.currentDir?, hplace, hfor.directory]
    rfl
  · rw [hstep, PackPlan.getLast?_argv_step]
  · rw [Machine.locate, htree, hplace]
    exact Tree.locate_name rfl hfor.named hfor.stands hfor.location hfor.taken

/-- What comes of packing: nothing has been handed over and nothing has changed, or one step has been, and it decides. -/
theorem handed_or_unchanged (hm : m.Sound) (s : Settings) (r : PackRequest) (today : Date) (ex : Runner σ) (state : σ) :
    let run := pack s r today ex.traced (state, []) m
    Handover.Unbroken Machine.tree m.tree run.2.1.2 run.2.2.tree ∧
      ((∃ f m', run = (.error f, (state, []), m') ∧ m.Alike m') ∨
        ∃ h plan, run.2.1.2 = [h] ∧ Archives s r today m h plan ∧
          ((run.1 = .ok plan ∧ h.Succeeded) ∨ ((∃ f, run.1 = .error f) ∧ ¬ h.Succeeded))) := by
  intro run
  have hlike := alike_prepare hm.tree.closed s r today
  have hjudged := judged s r today m
  have hrun : run = Errand.carryOut (perform ex.traced) (state, []) (prepare s r today m) := pack_eq ..
  rw [hrun]
  rcases hp : prepare s r today m with ⟨ready, m'⟩
  rw [hp] at hlike hjudged
  -- In all cases but the last the preparation has failed, so nothing is handed over.
  have hunchanged (f : Failure) : Handover.Unbroken Machine.tree m.tree ([] : List (Handover σ)) m'.tree ∧
      ∃ f' made, ((Except.error f, (state, []), m') : Except Failure PackPlan × (σ × List (Handover σ)) × Machine) =
        (.error f', (state, []), made) ∧ m.Alike made := ⟨hlike.tree, f, m', rfl, hlike⟩
  cases hjudged with
  | unplanned => exact (hunchanged _).imp_right .inl
  | lacking => exact (hunchanged _).imp_right .inl
  | blocked => exact (hunchanged _).imp_right .inl
  | ready hplanned =>
    obtain ⟨root, plan, hroot, hplan, rfl⟩ := exists_plan_of_planned hplanned
    obtain ⟨htree, hnot | ⟨way, inside, result, hentered, hseq, hanswer⟩⟩ :=
      Errand.carryOut_ready ex state ⟨plan.directory, [plan.step], plan, farewell plan⟩ m'
    · obtain ⟨f, hf⟩ := hnot
      rw [hf]
      exact (hunchanged f).imp_right .inl
    · refine ⟨by rw [← hlike.tree]; exact htree, .inr ?_⟩
      obtain ⟨h, hseen, hstep, hgiven, hok⟩ := hseq.single
      obtain ⟨p, event, -, hpath, hinside⟩ := Run.of_enter_eq_ok hentered
      have hplace : h.given.2.place = p := by rw [hgiven, hinside, Machine.place_printLine, Machine.place_emit]
      have hsame : h.given.2.tree = m.tree := by
        rw [hgiven, hinside, Machine.tree_printLine, Machine.tree_emit, ← hlike.tree]
      refine ⟨h, plan, hseen, archives_of_entered hm hroot hplan ?_ hstep hplace hsame, ?_⟩
      · rw [← hlike.locate]
        exact hpath
      · rw [hanswer]
        cases result with
        | ok _ => exact .inl ⟨rfl, hok.1 rfl⟩
        | error f => exact .inr ⟨⟨f, rfl⟩, fun hs => by cases hok.2 hs⟩

/-- Packing hands over one step at most.  It is the plan's step for the canonical path of the project root, it starts in
the plan's directory with all files as they were, and its last argument leads from there to the very object that the
project root leads to.  The answer is the plan exactly when that step has exited with 0.  Only the runner changes files:
the file that is made in the check is gone again, and where no step is handed over, because there is no such root, nothing
before it, no archiver or no way to make a file, nothing has changed. -/
theorem pack_archives_root (s : Settings) (r : PackRequest) (today : Date) (ex : Runner σ) (state : σ) (m : Machine)
    (hm : m.Sound) :
    let run := pack s r today ex.traced (state, []) m
    let seen := run.2.1.2
    pack s r today ex state m = (run.1, run.2.1.1, run.2.2) ∧
    seen.length ≤ 1 ∧
    (∀ h ∈ seen, ∃ plan, Archives s r today m h plan) ∧
    (∀ plan, run.1 = .ok plan ↔ ∃ h ∈ seen, Archives s r today m h plan ∧ h.Succeeded) ∧
    Handover.Unbroken Machine.tree m.tree seen run.2.2.tree ∧
    (seen = [] → (∃ f, run.1 = .error f) ∧ m.Alike run.2.2) ∧
    (∀ c, m.canonical s.projectRoot = .error c → run = (.error (.atPath s.projectRoot c), (state, []), m)) ∧
    ∀ root, m.canonical s.projectRoot = .ok root →
      (∀ f, PackPlan.ofRoot r.onlyCli root PackPlan.projectName today = .error f → run = (.error f, (state, []), m)) ∧
      ∀ plan, PackPlan.ofRoot r.onlyCli root PackPlan.projectName today = .ok plan →
        (s.skipToolCheck = false → Tools.Lacks m plan.step → seen = [] ∧
          run.1 = .error (.toolMissing (lossy plan.step.program) (Tools.providerOf (lossy plan.step.program)))) ∧
        (∀ f, Tools.Allow s m [plan.step] → probe plan.directory m = .error f → seen = [] ∧ run.1 = .error f) ∧
        ∀ made, probe plan.directory m = .ok made → made = m ∧ ∃ path l, m.tree.node? l = none ∧
          createNew path m = .ok { m with tree := m.tree.insert l (.file false []) } ∧
          Machine.removeAll { m with tree := m.tree.insert l (.file false []) } path = .ok made := by
  intro run seen
  obtain ⟨hunbroken, houtcome⟩ := handed_or_unchanged hm s r today ex state
  have hprepared (f : Failure) (h : (prepare s r today m).1 = .error f) : seen = [] ∧ run.1 = .error f := by
    simp only [seen, run, pack_eq, Errand.carryOut_of_error _ _ h, and_self]
  refine ⟨?_, ?_, ?_, fun plan => ?_, hunbroken, fun hnone => ?_, fun c hc => ?_,
    fun root hroot => ⟨fun f hf => ?_, fun plan hplan => ?_⟩⟩
  · obtain ⟨seen', hrun⟩ := pack_traced s r today ex state [] m
    simp only [run, hrun]
  · obtain ⟨f, m', hrun, -⟩ | ⟨h, plan, hseen, -⟩ := houtcome
    · simp [seen, run, hrun]
    · simp [seen, run, hseen]
  · obtain ⟨f, m', hrun, -⟩ | ⟨h, plan, hseen, harchives, -⟩ := houtcome
    · simp [seen, run, hrun]
    · intro k hk
      simp only [seen, run, hseen, List.mem_singleton] at hk
      exact ⟨plan, hk ▸ harchives⟩
  · obtain ⟨f, m', hrun, -⟩ | ⟨h, plan', hseen, harchives, hanswer⟩ := houtcome
    · simp [seen, run, hrun]
    · simp only [seen, run, hseen, List.mem_singleton, exists_eq_left]
      obtain ⟨hok, hs⟩ | ⟨⟨f, herror⟩, hs⟩ := hanswer
      · rw [hok]
        exact ⟨fun he => ⟨Except.ok.inj he ▸ harchives, hs⟩, fun hh => congrArg Except.ok (harchives.unique hh.1)⟩
      · rw [herror]
        exact iff_of_false (by simp) fun hh => hs hh.2
  · obtain ⟨f, m', hrun, hlike⟩ | ⟨h, plan, hseen, -⟩ := houtcome
    · simp only [run, hrun]
      exact ⟨⟨f, rfl⟩, hlike⟩
    · simp [seen, run, hseen] at hnone
  · simp only [run, pack_eq, prepare, hc, Errand.carryOut]
  · simp only [run, pack_eq, prepare, hroot, hf, Errand.carryOut]
  · have hplanned : planned s today m r = .ok ⟨plan.directory, [plan.step], plan, farewell plan⟩ := by
      simp only [planned, hroot, hplan, Except.map]
    have hjudged := judged s r today m
    exact ⟨fun hskip hl => hprepared _ (hjudged.eq_error_of_lacking hplanned hskip (.singleton hl)),
      fun f ht hd => hprepared f (hjudged.eq_error_of_blocked hplanned ht hd),
      fun made => eq_of_probe hm.tree.closed⟩

/-- A project directory with a name that is not text, and a link to it that goes through `..`. -/
def linkedProject : Machine where
  tree := ⟨[([utf8 "w".toList], .dir), ([utf8 "w".toList, [0x66, 0xff]], .dir),
    ([utf8 "s".toList], .link (utf8 "w/../w/".toList ++ [0x66, 0xff]))]⟩
  place := ⟨[utf8 "w".toList], 0⟩
  env := []
  out := []
  err := []
  log := .silent

def linkedSettings : Settings := ⟨utf8 "./../s/".toList, none, true⟩

theorem pack_archives_root_linked :
    let today : Date := ⟨2024, 3, 5, by decide, by decide, by decide, by decide, by decide, by decide⟩
    ∃ h ∈ (pack linkedSettings ⟨true⟩ today Runner.rehearsed.traced ([], []) linkedProject).2.1.2,
      h.Succeeded ∧ h.step.argv.getLast? = some [0x66, 0xff] ∧ h.given.2.currentDir? = some (utf8 "/w".toList) ∧
        h.given.2.locate [0x66, 0xff] = .ok (.dir ⟨[utf8 "w".toList, [0x66, 0xff]], 0⟩) := by
  intro today
  have hsound : linkedProject.Sound := ⟨Tree.sound_of_entries (by decide), rfl⟩
  have hcanonical : linkedProject.canonical linkedSettings.projectRoot =
      .ok (Location.path ([utf8 "w".toList] ++ [[0x66, 0xff]])) := rfl
  have hresolve : linkedProject.tree.resolve linkedProject.place linkedSettings.projectRoot =
      .ok (.dir ⟨[utf8 "w".toList, [0x66, 0xff]], 0⟩) := rfl
  have htemporary : temporaryPath (Location.path [utf8 "w".toList]) linkedProject =
      .ok (utf8 "/w/.fofimon-write-checkXXXXXX".toList) := rfl
  have hprobe : probe (Location.path [utf8 "w".toList]) linkedProject = .ok linkedProject :=
    probe_of_free hsound.tree.closed htemporary rfl
  have htools : ∀ steps, Tools.requireFor linkedSettings steps linkedProject = (.ok (), linkedProject) := fun _ => rfl
  have hnames : ∀ n ∈ [utf8 "w".toList] ++ [[0x66, 0xff]], Path.IsName n := fun n hn =>
    (hsound.tree.named _ (by decide) n hn).toIsName
  have hplan : PackPlan.ofRoot true _ PackPlan.projectName today = .ok _ := PackPlan.ofRoot_path hnames
  obtain ⟨-, -, -, hok, -⟩ :=
    pack_archives_root linkedSettings ⟨true⟩ today Runner.rehearsed [] linkedProject hsound
  have hanswer : (pack linkedSettings ⟨true⟩ today Runner.rehearsed.traced ([], []) linkedProject).1 =
      .ok ⟨true, PackPlan.omittedFor true, PackPlan.fileNameFor PackPlan.projectName today, [0x66, 0xff],
        Location.path [utf8 "w".toList]⟩ := by
    rw [pack_eq, prepare, hcanonical]
    dsimp only
    rw [hplan]
    dsimp only
    rw [htools]
    dsimp only
    rw [hprobe]
    rfl
  obtain ⟨h, hmem, harchives, hsucceeded⟩ := (hok _).1 hanswer
  obtain ⟨spot, hspot, hlocate, -⟩ := harchives.same
  obtain rfl := Except.ok.inj (hspot.symm.trans hresolve)
  exact ⟨h, hmem, hsucceeded, harchives.member, harchives.start, hlocate⟩

end Pack

end Slipway
