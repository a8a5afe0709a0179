import Slipway.Proofs.Machine.Alike
import Slipway.Proofs.Machine.Sound
import Slipway.Proofs.Task.Handed
set_option autoImplicit false

namespace Slipway

namespace Machine

theorem isDir_iff {m : Machine} {path : Bytes} : m.isDir path = true ↔ ∃ p, m.locate path = .ok (.dir p) := by
  unfold isDir
  split
  case h_1 p hp => simp [hp]
  case h_2 hne => simpa using fun p hp => hne p hp

theorem isDir_eq_false_iff {m : Machine} {path : Bytes} : m.isDir path = false ↔ ∀ p, m.locate path ≠ .ok (.dir p) := by
  rw [← Bool.not_eq_true, isDir_iff, not_exists]

theorem isFile_iff {m : Machine} {path : Bytes} :
    m.isFile path = true ↔ ∃ l executable data, m.locate path = .ok (.file l executable data) := by
  unfold isFile
  split
  case h_1 l executable data hp => simp [hp]
  case h_2 hne => simpa using fun l executable data hp => hne l executable data hp

theorem isFile_eq_false_iff {m : Machine} {path : Bytes} :
    m.isFile path = false ↔ ∀ l executable data, m.locate path ≠ .ok (.file l executable data) := by
  simp only [← Bool.not_eq_true, isFile_iff, not_exists, ne_eq]

end Machine

namespace Install

theorem isName_directoryName : Path.IsName InstallPlan.directoryName := ⟨by decide, by decide, by decide, by decide⟩

theorem isName_projectFile : Path.IsName projectFile := ⟨by decide, by decide, by decide, by decide⟩

theorem withoutTrailingSlashes_eq {path : Bytes} (h : path.getLast? ≠ some Path.slash) :
    Machine.withoutTrailingSlashes path = path := by
  cases hp : path.reverse with
  | nil =>
    rw [List.reverse_eq_nil_iff.1 hp]
    rfl
  | cons b front =>
    obtain rfl : path = front.reverse ++ [b] := by rw [← List.reverse_reverse path, hp, List.reverse_cons]
    have hb : b ≠ Path.slash := by simpa using h
    simp [Machine.withoutTrailingSlashes, hb]

theorem proper_of_project {m : Machine} {root : Bytes} {q : Place} (hr : m.locate root = .ok (.dir q))
    (hf : m.isFile (Path.join root projectFile) = true) :
    Tree.Proper (Path.join root InstallPlan.directoryName) ∧ q.lost = 0 := by
  obtain ⟨l, executable, data, hfile⟩ := Machine.isFile_iff.1 hf
  obtain ⟨links, hwalk⟩ := Tree.walk_of_locate_join hr isName_projectFile hfile
  exact ⟨(Tree.proper_of_locate hfile).join_of_length_le (Tree.proper_of_locate hr).nonempty isName_projectFile
    isName_directoryName (by decide) (by decide), (Tree.passes_of_walk hwalk).standing⟩

theorem makeDir_eq {m : Machine} {root : Bytes} {q : Place} (hr : m.locate root = .ok (.dir q))
    (hf : m.isFile (Path.join root projectFile) = true) :
    m.makeDir (Path.join root InstallPlan.directoryName) =
      match m.tree.node? (q.location ++ [InstallPlan.directoryName]) with
      | none => .ok { m with tree := m.tree.insert (q.location ++ [InstallPlan.directoryName]) .dir }
      | some _ => .error (.os .alreadyExists) := by
  obtain ⟨hproper', hstanding⟩ := proper_of_project hr hf
  have hpasses : Tree.Manner.Passes ⟨false, fun _ => true⟩ q InstallPlan.directoryName := ⟨by decide, rfl, hstanding⟩
  have hlast : (Path.join root InstallPlan.directoryName).getLast? ≠ some Path.slash := by
    rw [Move.getLast?_join isName_directoryName]
    exact Move.getLast?_ne_slash isName_directoryName
  obtain ⟨links', hwalk'⟩ := Tree.locate_join hr isName_directoryName hproper' false
  rw [Machine.makeDir, withoutTrailingSlashes_eq hlast, hwalk']
  cases hn : m.tree.node? (q.location ++ [InstallPlan.directoryName]) with
  | none =>
    rw [Tree.walk_name_free hpasses hn]
    rfl
  | some node =>
    obtain ⟨s, hs, hne⟩ := Tree.walk_name_taken hpasses rfl hn
    rw [hs]
    cases s with
    | free l => exact absurd rfl (hne l)
    | _ => rfl

theorem prepareDir_of_not_isDir {m : Machine} {root : Bytes} {q : Place} (hr : m.locate root = .ok (.dir q))
    (hf : m.isFile (Path.join root projectFile) = true)
    (hd : m.isDir (Path.join root InstallPlan.directoryName) = false) :
    prepareDir (Path.join root InstallPlan.directoryName) m =
      match m.tree.node? (q.location ++ [InstallPlan.directoryName]) with
      | none =>
        .ok (Machine.printLine { m with tree := m.tree.insert (q.location ++ [InstallPlan.directoryName]) .dir }
          ("Created ".toList ++ lossy (Path.join root InstallPlan.directoryName)))
      | some _ => .error (.atPath (Path.join root InstallPlan.directoryName) (.os .alreadyExists)) := by
  rw [prepareDir, hd, makeDir_eq hr hf]
  cases m.tree.node? (q.location ++ [InstallPlan.directoryName]) <;> rfl

variable {s : Settings} {r : InstallRequest} {m : Machine}

theorem prepare_of_not_isDir (h : m.isDir s.projectRoot = false) :
    prepare s r m = (.error (.atPath s.projectRoot .noProjectRoot), m) := by
  simp [prepare, checkRoot, h]

theorem prepare_of_not_isFile (h : m.isDir s.projectRoot = true)
    (hf : m.isFile (Path.join s.projectRoot projectFile) = false) :
    prepare s r m = (.error (.atPath (Path.join s.projectRoot projectFile) .notAProjectRoot), m) := by
  simp [prepare, checkRoot, h, hf]

theorem prepare_of_root (h : m.isDir s.projectRoot = true)
    (hf : m.isFile (Path.join s.projectRoot projectFile) = true) :
    ∃ m', m'.tree = m.tree ∧ m'.place = m.place ∧ m'.env = m.env ∧
      prepare s r m =
        match (Tools.requireFor s (plan s r).steps m).1 with
        | .error f => (.error f, m')
        | .ok () =>
          match prepareDir (plan s r).directory m' with
          | .error f => (.error f, m')
          | .ok ready => (.ok (errand s r), ready) := by
  rcases hc : Tools.requireFor s (plan s r).steps m with ⟨result, m'⟩
  refine ⟨m', Machine.quiet_tree.requireFor hc, Machine.quiet_place.requireFor hc, Machine.quiet_env.requireFor hc, ?_⟩
  simp only [prepare, checkRoot, h, hf, hc, Bool.not_true, Bool.false_eq_true, if_false]
  cases result <;> rfl

theorem prepare_of_lacking {step : Step} (h : m.isDir s.projectRoot = true)
    (hf : m.isFile (Path.join s.projectRoot projectFile) = true) (hs : s.skipToolCheck = false)
    (hl : Tools.FirstToLack m (plan s r).steps step) :
    ∃ m', m'.tree = m.tree ∧ m'.place = m.place ∧ m'.env = m.env ∧
      prepare s r m =
        (.error (.toolMissing (lossy step.program) (Tools.providerOf (lossy step.program))), m') := by
  obtain ⟨m', htree, hplace, henv, hprepare⟩ := prepare_of_root (r := r) h hf
  rw [Tools.requireFor_eq_error_iff.2 ⟨hs, step, hl, rfl⟩] at hprepare
  exact ⟨m', htree, hplace, henv, hprepare⟩

section Ready

variable {q : Place} (hq : m.locate s.projectRoot = .ok (.dir q))
  (hf : m.isFile (Path.join s.projectRoot projectFile) = true)
  (ht : Tools.Allow s m (plan s r).steps)
include hq hf ht

theorem prepare_of_tools :
    ∃ m', m'.tree = m.tree ∧ m'.place = m.place ∧ m'.env = m.env ∧
      prepare s r m =
        match prepareDir (plan s r).directory m' with
        | .error f => (.error f, m')
        | .ok ready => (.ok (errand s r), ready) := by
  obtain ⟨m', htree, hplace, henv, hprepare⟩ := prepare_of_root (r := r) (Machine.isDir_iff.2 ⟨q, hq⟩) hf
  rw [Tools.requireFor_eq_ok_iff.2 ht] at hprepare
  exact ⟨m', htree, hplace, henv, hprepare⟩

theorem prepare_of_isDir (hd : m.isDir (plan s r).directory = true) :
    ∃ ready, ready.tree = m.tree ∧ ready.place = m.place ∧ ready.env = m.env ∧
      prepare s r m = (.ok (errand s r), ready) := by
  obtain ⟨m', htree, hplace, henv, hprepare⟩ := prepare_of_tools hq hf ht
  have hd' : m'.isDir (plan s r).directory = true := by rw [Machine.isDir_congr htree hplace, hd]
  refine ⟨m', htree, hplace, henv, ?_⟩
  rw [hprepare, prepareDir, if_pos hd']

theorem prepare_of_not_isDir_directory (hd : m.isDir (plan s r).directory = false) :
    ∃ m', m'.tree = m.tree ∧ m'.place = m.place ∧ m'.env = m.env ∧
      prepare s r m =
        match m.tree.node? (q.location ++ [InstallPlan.directoryName]) with
        | none =>
          (.ok (errand s r),
            Machine.printLine { m' with tree := m.tree.insert (q.location ++ [InstallPlan.directoryName]) .dir }
              ("Created ".toList ++ lossy (plan s r).directory))
        | some _ => (.error (.atPath (plan s r).directory (.os .alreadyExists)), m') := by
  obtain ⟨m', htree, hplace, henv, hprepare⟩ := prepare_of_tools hq hf ht
  have hq' : m'.locate s.projectRoot = .ok (.dir q) := by rw [Machine.locate_congr htree hplace, hq]
  have hf' : m'.isFile (Path.join s.projectRoot projectFile) = true := by rw [Machine.isFile_congr htree hplace, hf]
  have hd' : m'.isDir (plan s r).directory = false := by rw [Machine.isDir_congr htree hplace, hd]
  refine ⟨m', htree, hplace, henv, ?_⟩
  rw [hprepare, plan, InstallPlan.ofRequest, prepareDir_of_not_isDir hq' hf' hd', htree]
  cases m.tree.node? (q.location ++ [InstallPlan.directoryName]) <;> rfl

end Ready

/-- A build that goes on from the machine `ready`: what it answers is what its steps come to, and only they change files
from then on. -/
structure GoesOn {σ : Type} (ex : Runner σ) (plan : InstallPlan) (state : σ) (m ready : Machine)
    (run : Except Failure Unit × (σ × List (Handover σ)) × Machine) : Prop where
  place : ready.place = m.place
  env : ready.env = m.env
  answer : run.1 = (perform ex plan.directory plan.steps state ready).1
  files : Handover.Unbroken Machine.tree ready.tree run.2.1.2 run.2.2.tree

theorem goesOn_of_prepare {σ : Type} (ex : Runner σ) (state : σ) {ready : Machine}
    (hp : prepare s r m = (.ok (errand s r), ready)) (hplace : ready.place = m.place) (henv : ready.env = m.env) :
    GoesOn ex (plan s r) state m ready (install s r ex.traced (state, []) m) := by
  obtain ⟨seen, hrun, htree, -⟩ := perform_traced ex (plan s r).directory (plan s r).steps state [] ready
  rw [install_eq, hp]
  refine ⟨hplace, henv, ?_, ?_⟩
  · rw [Errand.carryOut_answer]
    simp only [Except.bind, errand, hrun]
    cases (perform ex (plan s r).directory (plan s r).steps state ready).1 <;> rfl
  · obtain ⟨hstate, -, hfinal⟩ := Errand.carryOut_rest (perform ex.traced) (state, []) (errand s r) ready
    rw [hstate, hfinal, errand, hrun]
    exact htree

theorem install_traced {σ : Type} (ex : Runner σ) (state : σ) (before : List (Handover σ)) :
    ∃ seen, install s r ex.traced (state, before) m =
      ((install s r ex state m).1, ((install s r ex state m).2.1, before ++ seen), (install s r ex state m).2.2) := by
  rw [install_eq, install_eq]
  exact Errand.carryOut_traced ex state before _

/-- The checks before a build, in their order: the project root, the project file in it, the programs of all steps, the
build directory.  A check that fails ends the run with nothing handed over and no file changed, and when all have passed
the build directory is the one thing that may have been added. -/
theorem install_checks_in_order {σ : Type} (s : Settings) (r : InstallRequest) (ex : Runner σ) (state : σ)
    (m : Machine) :
    let root := s.projectRoot
    let file := Path.join root (utf8 "CMakeLists.txt".toList)
    let dir := Path.join root (utf8 "build".toList)
    let plan := InstallPlan.ofRequest r root s.compileArgs
    let run := install s r ex.traced (state, []) m
    install s r ex state m = (run.1, run.2.1.1, run.2.2) ∧
    plan.directory = dir ∧
    ((∀ q, m.locate root ≠ .ok (.dir q)) → run = (.error (.atPath root .noProjectRoot), (state, []), m)) ∧
    ∀ q, m.locate root = .ok (.dir q) →
      ((∀ l executable data, m.locate file ≠ .ok (.file l executable data)) →
        run = (.error (.atPath file .notAProjectRoot), (state, []), m)) ∧
      ((∃ l executable data, m.locate file = .ok (.file l executable data)) →
        let site := q.location ++ [utf8 "build".toList]
        (∀ step, s.skipToolCheck = false → Tools.FirstToLack m plan.steps step → ∃ m',
          run = (.error (.toolMissing (lossy step.program) (Tools.providerOf (lossy step.program))), (state, []), m') ∧
            m'.tree = m.tree ∧ m'.place = m.place) ∧
        ((s.skipToolCheck = true ∨ ∀ step ∈ plan.steps, ¬ Tools.Lacks m step) →
          ((∃ p, m.locate dir = .ok (.dir p)) → ∃ ready, ready.tree = m.tree ∧ GoesOn ex plan state m ready run) ∧
          ((∀ p, m.locate dir ≠ .ok (.dir p)) →
            (m.tree.node? site ≠ none → ∃ cause m',
              run = (.error (.atPath dir cause), (state, []), m') ∧ m'.tree = m.tree ∧ m'.place = m.place) ∧
            (m.tree.node? site = none → ∃ ready,
              ready.tree = m.tree.insert site .dir ∧ GoesOn ex plan state m ready run ∧
                (m.tree.Closed → ∀ n more, ready.tree.node? (site ++ n :: more) = none))))) := by
  intro root file dir plan run
  have hrun : run = Errand.carryOut (perform ex.traced) (state, []) (prepare s r m) := install_eq s r _ _ m
  refine ⟨?_, rfl, fun h => ?_, fun q hq => ⟨fun hf => ?_, fun hf => ?_⟩⟩
  · obtain ⟨seen, htraced⟩ := install_traced (s := s) (r := r) (m := m) ex state []
    simp only [run, htraced]
  · rw [hrun, prepare_of_not_isDir (Machine.isDir_eq_false_iff.2 h)]
    rfl
  · rw [hrun, prepare_of_not_isFile (Machine.isDir_iff.2 ⟨q, hq⟩) (Machine.isFile_eq_false_iff.2 hf)]
    rfl
  · intro site
    have hroot := Machine.isDir_iff.2 ⟨q, hq⟩
    have hf := Machine.isFile_iff.2 hf
    refine ⟨fun step hskip hl => ?_, fun ht => ⟨fun hd => ?_, fun hd => ⟨fun hn => ?_, fun hn => ?_⟩⟩⟩
    · obtain ⟨m', htree, hplace, -, hprepare⟩ := prepare_of_lacking hroot hf hskip hl
      exact ⟨m', by rw [hrun, hprepare, Errand.carryOut], htree, hplace⟩
    · obtain ⟨ready, htree, hplace, henv, hprepare⟩ := prepare_of_isDir hq hf ht (Machine.isDir_iff.2 hd)
      exact ⟨ready, htree, goesOn_of_prepare ex state hprepare hplace henv⟩
    · obtain ⟨m', htree, hplace, -, hprepare⟩ :=
        prepare_of_not_isDir_directory hq hf ht (Machine.isDir_eq_false_iff.2 hd)
      obtain ⟨node, hnode⟩ := Option.ne_none_iff_exists'.1 hn
      rw [InstallPlan.directoryName, hnode] at hprepare
      exact ⟨.os .alreadyExists, m', by rw [hrun, hprepare]; rfl, htree, hplace⟩
    · obtain ⟨m', -, hplace, henv, hprepare⟩ :=
        prepare_of_not_isDir_directory hq hf ht (Machine.isDir_eq_false_iff.2 hd)
      rw [InstallPlan.directoryName, hn] at hprepare
      refine ⟨_, rfl, goesOn_of_prepare ex state hprepare hplace henv, fun hc n more => ?_⟩
      have hne : site ++ n :: more ≠ site := by simp
      exact (Tree.node?_insert_of_ne _ _ _ _ hne).trans (hc.below hn (n :: more))

end Install

end Slipway
