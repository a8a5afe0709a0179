import Slipway.Machine.Files
import Slipway.Program
import Slipway.Proofs.Run.Sequence
set_option autoImplicit false

namespace Slipway

theorem CommandLine.exists_of_parse_eq_error {ι α : Type} [BEq ι] {g : Grammar ι}
    {request : List ι → List (ι × Bytes) → α} {tokens : List Bytes} {f : Failure}
    (h : parse g request tokens = .error f) : ∃ d, f = .refusedArguments d := by
  unfold parse at h
  dsimp only at h
  split at h
  · cases h
  · cases h
  · exact ⟨_, (Except.error.inj h).symm⟩

namespace Program

structure Answer where
  status : Nat
  out : Text
  err : Text
deriving DecidableEq

def answer? {α : Type} : Except Failure (Invocation α) → Option Answer
  | .error f => some ⟨64, [], (Stop.failure f).line⟩
  | .ok (.info t) => some ⟨0, t, []⟩
  | .ok (.run _) => none

def Answer.onto (a : Answer) (m : Machine) : Machine :=
  { m with out := m.out ++ utf8 a.out, err := m.err ++ utf8 a.err }

def Gives {σ : Type} (a : Answer) (state : σ) (m : Machine) (run : Except Stop Unit × σ × Machine) : Prop :=
  finish (run.1, run.2.2) = (a.status, a.onto m) ∧ run.2.1 = state

section

variable {ι α σ : Type} [BEq ι] {g : CommandLine.Grammar ι} {request : List ι → List (ι × Bytes) → α}
  {tokens : List Bytes} {a : Answer} (state : σ) (m : Machine)

theorem gives_error {f : Failure} (hp : CommandLine.parse g request tokens = .error f)
    (ha : answer? (CommandLine.parse g request tokens) = some a) :
    Gives a state m (.error (.failure f), state, m) := by
  obtain ⟨d, rfl⟩ := CommandLine.exists_of_parse_eq_error hp
  rw [hp] at ha
  obtain rfl := Option.some.inj ha
  refine ⟨?_, rfl⟩
  simp [finish, Stop.status, Failure.exitStatus, Machine.printError, Answer.onto, utf8]

theorem gives_info {t : Text} (hp : CommandLine.parse g request tokens = .ok (.info t))
    (ha : answer? (CommandLine.parse g request tokens) = some a) : Gives a state m (.ok (), state, m.print t) := by
  rw [hp] at ha
  obtain rfl := Option.some.inj ha
  refine ⟨?_, rfl⟩
  simp [finish, Machine.print, Answer.onto, utf8]

theorem answer?_parse {β : Type} (other : List ι → List (ι × Bytes) → β) :
    answer? (CommandLine.parse g request tokens) = answer? (CommandLine.parse g other tokens) := by
  unfold CommandLine.parse
  dsimp only
  cases g.scan tokens.tail <;> rfl

end

variable {σ : Type} {argv : List Bytes} {a : Answer} {m : Machine}

theorem runInstall_gives {base here : Bytes} (ha : answer? (InstallRequest.parse base argv) = some a)
    (hh : m.currentDir? = some here) (ex : Runner σ) (state : σ) : Gives a state m (runInstall argv ex state m) := by
  have ha' : answer? (InstallRequest.parse here argv) = some a := (answer?_parse _).trans ha
  unfold runInstall
  simp only [hh]
  cases hp : InstallRequest.parse here argv with
  | error f => exact gives_error state m hp ha'
  | ok i =>
    cases i with
    | info t => exact gives_info state m hp ha'
    | run r =>
      rw [hp] at ha'
      cases ha'

theorem runPack_gives (ha : answer? (PackRequest.parse argv) = some a) (today : Date) (ex : Runner σ) (state : σ) :
    Gives a state m (runPack argv today ex state m) := by
  unfold runPack
  cases hp : PackRequest.parse argv with
  | error f => exact gives_error state m hp ha
  | ok i =>
    cases i with
    | info t => exact gives_info state m hp ha
    | run r =>
      rw [hp] at ha
      cases ha

theorem runInstall_of_no_directory (hh : m.currentDir? = none) (ex : Runner σ) (state : σ) :
    runInstall argv ex state m = (.error .noCurrentDir, state, m) := by
  unfold runInstall
  simp only [hh]

/-- Help, version and refused arguments give one answer on every machine: for packing without exception, for installing
wherever there is a current directory, of whatever path.  No runner is handed anything.  Without a current directory
installing complains of that, whatever its arguments are. -/
theorem arguments_decide (argv : List Bytes) (a : Answer) :
    (∀ base, answer? (InstallRequest.parse base argv) = some a → ∀ m, m.currentDir? ≠ none →
      mainInstall argv m = (a.status, a.onto (withLog m)) ∧
        ∀ (σ : Type) (ex : Runner σ) (state : σ),
          Gives a (state, []) (withLog m) (runInstall argv ex.traced (state, []) (withLog m))) ∧
    (∀ m, m.currentDir? = none → mainInstall argv m = (1, (withLog m).printError Stop.noCurrentDir.line) ∧
      ∀ (σ : Type) (ex : Runner σ) (state : σ),
        (runInstall argv ex.traced (state, []) (withLog m)).2.1 = (state, [])) ∧
    (answer? (PackRequest.parse argv) = some a → ∀ m today,
      mainPack argv today m = (a.status, a.onto (withLog m)) ∧
        ∀ (σ : Type) (ex : Runner σ) (state : σ),
          Gives a (state, []) (withLog m) (runPack argv today ex.traced (state, []) (withLog m))) := by
  refine ⟨fun base ha m hm => ?_, fun m hm => ?_, fun ha m today => ?_⟩
  · obtain ⟨here, hh⟩ := Option.ne_none_iff_exists'.1 hm
    have hh' : (withLog m).currentDir? = some here := hh
    exact ⟨(runInstall_gives ha hh' Runner.starting ()).1,
      fun _ ex state => runInstall_gives ha hh' ex.traced (state, [])⟩
  · have hm' : (withLog m).currentDir? = none := hm
    refine ⟨?_, fun σ ex state => ?_⟩
    · rw [mainInstall, runInstall_of_no_directory hm']
      rfl
    · rw [runInstall_of_no_directory hm']
  · exact ⟨(runPack_gives ha today Runner.starting ()).1,
      fun _ ex state => runPack_gives ha today ex.traced (state, [])⟩

def versionArgs : List Bytes := ["install-fofimon", "--version"].map fun a => utf8 a.toList

def versionAnswer : Answer := ⟨0, "install-fofimon 0.1.0\n".toList, []⟩

theorem arguments_decide_version :
    answer? (InstallRequest.parse [] versionArgs) = some versionAnswer ∧ (Machine.ofFiles []).currentDir? ≠ none ∧
      mainInstall versionArgs (.ofFiles []) = (0, versionAnswer.onto (withLog (.ofFiles []))) := by
  have ha : answer? (InstallRequest.parse [] versionArgs) = some versionAnswer := by decide +kernel
  have hm : (Machine.ofFiles []).currentDir? ≠ none := by decide
  exact ⟨ha, hm, ((arguments_decide versionArgs versionAnswer).1 [] ha _ hm).1⟩

/-- A machine in a directory that is then removed: before, the version is told, and afterwards the same arguments are
answered with a complaint. -/
theorem version_needs_directory :
    let m := { Machine.ofFiles [(["d"], .dir)] with place := ⟨[utf8 "d".toList], 0⟩ }
    answer? (InstallRequest.parse [] versionArgs) = some versionAnswer ∧
      (mainInstall versionArgs m).1 = 0 ∧ (mainInstall versionArgs m).2.out = utf8 versionAnswer.out ∧
      ∃ gone, m.removeAll (utf8 "/d".toList) = .ok gone ∧ (mainInstall versionArgs gone).1 = 1 ∧
        (mainInstall versionArgs gone).2.out = [] ∧
          (mainInstall versionArgs gone).2.err = utf8 "error: cannot determine current directory\n".toList := by
  exact ⟨by decide +kernel, by decide +kernel, by decide +kernel, _, rfl, by decide +kernel, by decide +kernel,
    by decide +kernel⟩

end Program

end Slipway
