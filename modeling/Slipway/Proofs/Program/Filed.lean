import Slipway.Proofs.Program.Status
import Slipway.Proofs.Settings.Filed
import Slipway.Proofs.Task.Overlooked
set_option autoImplicit false

/-!
Whole runs with a variable that is set, and with a `.env` file that assigns it instead.  Nothing tells them apart as long
as nobody looks for that file itself (`Program.file_for_variable`), but for the variable of the log: that is read before any
file is, so from the file it has no effect (`Program.log_variable_not_read_from_file`).
-/

namespace Slipway.Program

open Settings

variable {σ : Type}

/-- Runs that hand over the same steps and end with the same exit status and output; on standard error if `told`. -/
structure SameAnswer (told : Prop) (run run' : Except Stop Unit × (σ × List (Handover σ)) × Machine) : Prop where
  steps : run'.2.1.2.map Handover.step = run.2.1.2.map Handover.step
  status : (finish (run'.1, run'.2.2)).1 = (finish (run.1, run.2.2)).1
  out : (finish (run'.1, run'.2.2)).2.out = (finish (run.1, run.2.2)).2.out
  err : told → (finish (run'.1, run'.2.2)).2.err = (finish (run.1, run.2.2)).2.err

theorem sameAnswer {told : Prop} {run run' : Except Stop Unit × (σ × List (Handover σ)) × Machine}
    (hanswer : run'.1 = run.1) (hsteps : run'.2.1.2.map Handover.step = run.2.1.2.map Handover.step)
    (hout : run'.2.2.out = run.2.2.out) (herr : told → run'.2.2.err = run.2.2.err) : SameAnswer told run run' := by
  obtain ⟨answer, seen, left⟩ := run
  obtain ⟨answer', seen', left'⟩ := run'
  obtain rfl : answer' = answer := hanswer
  cases answer' with
  | ok _ => exact ⟨hsteps, rfl, hout, herr⟩
  | error s =>
    refine ⟨hsteps, rfl, hout, fun ht => ?_⟩
    simp only [finish, Machine.printError]
    rw [herr ht]

theorem sameAnswer_of_lockstep {α : Type} {l : Location} {told : Prop} {run run' : α × (σ × List (Handover σ)) × Machine}
    (h : InLockstep l told run run') (answer : α → Except Stop Unit) :
    SameAnswer told (answer run.1, run.2) (answer run'.1, run'.2) :=
  sameAnswer (congrArg answer h.answer) h.steps h.machine.out fun ht => (h.machine.log ht).2

section Runs

variable {argv : List Bytes} {today : Date} {ex : Runner σ} {state : σ} {m a b : Machine} {name v : Text} {content : Bytes}
  {told : Prop} (h : Interchangeable m name v content) (hp : Unread m name v content told a b)
include h hp

theorem runInstall_filed
    (hproject : ∀ s after, Settings.read (Location.path m.place.location) a = .ok (s, after) →
      b.isFile (Path.join s.projectRoot Install.projectFile) = a.isFile (Path.join s.projectRoot Install.projectFile))
    (hover : Overlooked (DotEnv.site m) told (runInstall argv ex.traced (state, []) a)
      (runInstall argv ex.traced (state, []) b)) :
    SameAnswer told (runInstall argv ex.traced (state, []) a) (runInstall argv ex.traced (state, []) b) := by
  obtain ⟨ha, hb⟩ := hp.currentDir? h.toUnfiled
  simp only [runInstall, ha, hb] at hover ⊢
  cases hparse : InstallRequest.parse (Location.path m.place.location) argv with
  | error f => exact sameAnswer rfl rfl hp.out fun ht => (hp.log ht).2
  | ok i =>
    cases i with
    | info t => exact sameAnswer rfl rfl (by simp [Machine.print, hp.out]) fun ht => (hp.log ht).2
    | run r =>
      simp only [hparse] at hover
      dsimp only
      -- What is logged before the settings are read leaves both machines as they were, but for standard error.
      generalize (⟨.debug, requestTarget, _, _⟩ : Log.Event) = e at hover ⊢
      have hp' := hp.emit e
      have hread := read_filed h hp' (Location.path m.place.location)
      generalize hra : Settings.read (Location.path m.place.location) (a.emit e) = ra at hread hover ⊢
      generalize Settings.read (Location.path m.place.location) (b.emit e) = rb at hread hover ⊢
      cases hread with
      | crash c => exact sameAnswer rfl rfl hp'.out fun ht => (hp'.log ht).2
      | read s hsame hset htree hplace =>
        obtain ⟨first, hfirst, -⟩ := (Machine.alike_emit a e).symm.read hra
        refine sameAnswer_of_lockstep (install_sameBut hsame ?_ h.proper_here (by decide) ?_ hover)
          (Except.mapError .failure)
        · rw [hset.place, Machine.place_emit, hp.set.place]
          exact h.place_eq
        · rw [Machine.isFile_congr htree hplace, hset.isFile, (Machine.alike_emit a e).isFile,
            (Machine.alike_emit b e).isFile, hproject s first hfirst]

theorem runPack_filed
    (hroot : ∀ s after, Settings.read (Location.path m.place.location) a = .ok (s, after) →
      b.canonical s.projectRoot = a.canonical s.projectRoot)
    (hover : Overlooked (DotEnv.site m) told (runPack argv today ex.traced (state, []) a)
      (runPack argv today ex.traced (state, []) b)) :
    SameAnswer told (runPack argv today ex.traced (state, []) a) (runPack argv today ex.traced (state, []) b) := by
  obtain ⟨ha, hb⟩ := hp.currentDir? h.toUnfiled
  simp only [runPack, ha, hb] at hover ⊢
  cases hparse : PackRequest.parse argv with
  | error f => exact sameAnswer rfl rfl hp.out fun ht => (hp.log ht).2
  | ok i =>
    cases i with
    | info t => exact sameAnswer rfl rfl (by simp [Machine.print, hp.out]) fun ht => (hp.log ht).2
    | run r =>
      simp only [hparse] at hover
      dsimp only
      have hread := read_filed h hp (Location.path m.place.location)
      generalize hra : Settings.read (Location.path m.place.location) a = ra at hread hover ⊢
      generalize Settings.read (Location.path m.place.location) b = rb at hread hover ⊢
      cases hread with
      | crash c => exact sameAnswer rfl rfl hp.out fun ht => (hp.log ht).2
      | read s hsame hset htree hplace =>
        refine sameAnswer_of_lockstep (pack_sameBut hsame (Pack.ne_temporaryName (by decide)) ?_ ?_ h.proper_here hover)
          fun result => (result.map fun _ => ()).mapError .failure
        · rw [Machine.canonical_congr htree hplace, hset.canonical, hroot s _ hra]
        · rw [hset.place, hp.set.place]
          exact h.place_eq

end Runs

section Answers

variable (argv : List Bytes) (today : Date) (ex : Runner σ) (state : σ) (m : Machine)

theorem runInstall_answered : ∀ h ∈ (runInstall argv ex.traced (state, []) m).2.1.2,
    ex h.step h.given.1 h.given.2 = (h.reply, h.left) := by
  obtain ⟨result, left, hrun⟩ | ⟨s, r, after, hrun⟩ := runInstall_cases argv m
  · simp [hrun]
  · rw [hrun, install_eq]
    exact fun h hh => Errand.answered hh

theorem runPack_answered : ∀ h ∈ (runPack argv today ex.traced (state, []) m).2.1.2,
    ex h.step h.given.1 h.given.2 = (h.reply, h.left) := by
  obtain ⟨result, left, hrun⟩ | ⟨s, r, after, hrun⟩ := runPack_cases argv today m
  · simp [hrun]
  · rw [hrun, pack_eq]
    exact fun h hh => Errand.answered hh

end Answers

section Log

variable {m : Machine} {name v : Text} {content : Bytes}

/-- The log's variable is read when a run starts, so any other leaves the log as it is. -/
theorem log_filing (h : name ≠ logVar) : (withLog (m.filing content)).log = (withLog (m.setting name v)).log := by
  have hget : (m.env.set (utf8 name) (utf8 v)).get? (utf8 logVar) = m.env.get? (utf8 logVar) :=
    Env.get?_set_of_ne _ _ _ _ fun heq => h (utf8_injective heq)
  simp only [withLog, Machine.filing, Machine.setting, Env.text?, hget]

theorem log_setting : (withLog (m.setting logVar v)).log = .ofVariable (some v) := by
  simp only [withLog, Machine.setting, Env.text?, Env.get?_set_self, Option.bind_some, decode?_utf8]

theorem log_filing_of_unset (h : m.env.get? (utf8 logVar) = none) :
    (withLog (m.filing content)).log = .ofVariable none := by
  simp only [withLog, Machine.filing, Env.text?, h, Option.bind_none]

end Log

/-- A variable that a `.env` file assigns counts as one that is set, for all arguments and with every runner whose steps
overlook the file, unless the settings lead to that file itself: where the project is to be installed or packed, the project
file or the project root must be the same with it and without it.  Then the same steps are handed over, and exit status
and output are the same.  So is standard error, but not for the variable of the log: from the file it comes too late, and
the log is what it is without it. -/
theorem file_for_variable (argv : List Bytes) (today : Date) (ex : Runner σ) (state : σ) (m : Machine) (name v : Text)
    (content : Bytes) (h : Interchangeable m name v content) :
    let set := withLog (m.setting name v)
    let filed := withLog (m.filing content)
    let told := filed.log = set.log
    ((∀ s after, Settings.read (Location.path m.place.location) set = .ok (s, after) →
        filed.isFile (Path.join s.projectRoot Install.projectFile) =
          set.isFile (Path.join s.projectRoot Install.projectFile)) →
      Overlooked (DotEnv.site m) told (runInstall argv ex.traced (state, []) set)
        (runInstall argv ex.traced (state, []) filed) →
      SameAnswer told (runInstall argv ex.traced (state, []) set) (runInstall argv ex.traced (state, []) filed)) ∧
    ((∀ s after, Settings.read (Location.path m.place.location) set = .ok (s, after) →
        filed.canonical s.projectRoot = set.canonical s.projectRoot) →
      Overlooked (DotEnv.site m) told (runPack argv today ex.traced (state, []) set)
        (runPack argv today ex.traced (state, []) filed) →
      SameAnswer told (runPack argv today ex.traced (state, []) set) (runPack argv today ex.traced (state, []) filed)) ∧
    (name ≠ logVar → told) ∧
    (name = logVar → set.log = .ofVariable (some v) ∧ filed.log = .ofVariable none) := by
  intro set filed told
  have hunread : Unread m name v content told set filed :=
    ⟨⟨rfl, rfl, rfl⟩, ⟨rfl, rfl, rfl⟩, rfl, fun ht => ⟨ht, rfl⟩⟩
  refine ⟨fun hproject hover => runInstall_filed h hunread hproject hover,
    fun hroot hover => runPack_filed h hunread hroot hover, log_filing, ?_⟩
  rintro rfl
  exact ⟨log_setting, log_filing_of_unset h.unset⟩

def projectHere : Machine :=
  { Machine.ofFiles
      [(["p"], .dir), (["p", "CMakeLists.txt"], .file false []), (["bin"], .dir), (["bin", "cmake"], .file true []),
        (["bin", "make"], .file true []), (["bin", "tar"], .file true [])] with
    place := ⟨[utf8 "p".toList], 0⟩
    env := [(Machine.pathVar, utf8 "/bin".toList)] }

theorem unfiled_projectHere : DotEnv.Unfiled projectHere where
  sound := ⟨Tree.sound_of_entries (by decide +kernel), rfl⟩
  here := rfl
  free := by decide +kernel
  nowhere := rfl

def twoLineOptions : Text := "-j2\nX=$Y".toList

def optionsSet : Machine := withLog (projectHere.setting compileOptionsVar twoLineOptions)

def optionsFiled : Machine :=
  withLog (projectHere.filing (utf8 (DotEnv.assignmentLine compileOptionsVar twoLineOptions ++ ['\n'])))

theorem projectRoot_optionsSet (s : Settings) (after : Machine)
    (h : Settings.read (utf8 "/p".toList) optionsSet = .ok (s, after)) : s.projectRoot = utf8 "/p".toList := by
  have hread : (Settings.read (utf8 "/p".toList) optionsSet).map Prod.fst =
      .ok ⟨utf8 "/p".toList, some twoLineOptions, false⟩ := by decide +kernel
  rw [h] at hread
  exact congrArg projectRoot (Except.ok.inj hread)

theorem isFile_optionsFiled :
    let path := Path.join (utf8 "/p".toList) Install.projectFile
    optionsFiled.isFile path = optionsSet.isFile path := by
  decide +kernel

theorem canonical_optionsFiled :
    optionsFiled.canonical (utf8 "/p".toList) = optionsSet.canonical (utf8 "/p".toList) := by
  decide +kernel

theorem file_for_variable_optionsFiled :
    let today : Date := ⟨2024, 3, 5, by decide, by decide, by decide, by decide, by decide, by decide⟩
    let install := runInstall installArgs Runner.rehearsed.traced ([], [])
    let pack := runPack [utf8 "fofimon-sourcepackage".toList] today Runner.rehearsed.traced ([], [])
    (SameAnswer (optionsFiled.log = optionsSet.log) (install optionsSet) (install optionsFiled) ∧
        (install optionsSet).2.1.2.length = 3) ∧
      (SameAnswer (optionsFiled.log = optionsSet.log) (pack optionsSet) (pack optionsFiled) ∧
        (pack optionsSet).2.1.2.length = 1) ∧
      optionsFiled.log = optionsSet.log := by
  intro today install pack
  have hname : DotEnv.IsVariable compileOptionsVar := ⟨⟨_, _, rfl, by decide⟩, List.all_eq_true.1 (by decide)⟩
  have h := interchangeable_assignmentLine (v := twoLineOptions) unfiled_projectHere hname rfl (by decide) rfl
  obtain ⟨hinstall, -, htold, -⟩ := file_for_variable installArgs today Runner.rehearsed [] _ _ _ _ h
  obtain ⟨-, hpack, -, -⟩ :=
    file_for_variable [utf8 "fofimon-sourcepackage".toList] today Runner.rehearsed [] _ _ _ _ h
  refine ⟨⟨hinstall (fun s after hs => ?_) ?_, by decide +kernel⟩, ⟨hpack (fun s after hs => ?_) ?_, by decide +kernel⟩,
    htold (by decide)⟩
  · rw [projectRoot_optionsSet s after hs]
    exact isFile_optionsFiled
  · exact Runner.rehearsed_overlooks.overlooked (runInstall_answered _ _ _ _) (runInstall_answered _ _ _ _)
  · rw [projectRoot_optionsSet s after hs]
    exact canonical_optionsFiled
  · exact Runner.rehearsed_overlooks.overlooked (runPack_answered _ _ _ _ _) (runPack_answered _ _ _ _ _)

theorem log_variable_not_read_from_file :
    let v := "debug".toList
    let content := utf8 (DotEnv.assignmentLine logVar v ++ ['\n'])
    Interchangeable projectHere logVar v content ∧
      (mainInstall installArgs (projectHere.filing content)).2.err ≠
        (mainInstall installArgs (projectHere.setting logVar v)).2.err := by
  intro v content
  have hname : DotEnv.IsVariable logVar := ⟨⟨_, _, rfl, by decide⟩, List.all_eq_true.1 (by decide)⟩
  exact ⟨interchangeable_assignmentLine unfiled_projectHere hname rfl (by decide) rfl, by decide +kernel⟩

end Slipway.Program
