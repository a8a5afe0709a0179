import Slipway.Machine.Start
import Slipway.Proofs.Machine.Growth
import Slipway.Proofs.Machine.Join
set_option autoImplicit false

/-!
The two searches for a program.  `Machine.startFile?` is the file at which the search ends that is made when a program is
started: starting succeeds if that file can be executed, and fails if there is none (`start_of_startFile?`,
`start_of_none`).  Where every directory of the search path is absolute, and nothing worse can be said of a path in it
than that there is nothing, a program that has been found beforehand is found again, from whatever directory and however
much has been added to the tree (`startFile?_of_findProgram?`).
-/

namespace Slipway.Machine

variable {m m' : Machine} {path program dir : Bytes} {paths argv : List Bytes} {ws : List Bytes} {e : OsError}

/-- Whether a search goes on to the next path: what is absent or must not be executed may still be found elsewhere. -/
def isPassedOver (e : OsError) : Bool := e = .accessDenied || e.isAbsence

/-- The first file that may be executed, unless other trouble ends the search before. -/
def startFile? (m : Machine) : List Bytes → Option Bytes
  | [] => none
  | path :: paths =>
    match m.openProgram path with
    | .ok _ => some path
    | .error e => if isPassedOver e then startFile? m paths else none

theorem openProgram_eq_ok_iff : (∃ r, m.openProgram path = .ok r) ↔ m.isProgram path = true := by
  unfold openProgram isProgram
  cases m.locate path with
  | error c =>
    cases c with
    | os e => by_cases h : path = [] <;> simp [h]
    | _ => simp
  | ok s =>
    cases s with
    | file l executable data => cases executable <;> simp
    | _ => simp

theorem shellWords_of_error (h : m.openProgram path = .error e) : m.shellWords path = .error e := by
  unfold shellWords interpreterLimit shellWordsWithin
  rw [h]

theorem firstWords_passed (paths : List Bytes) (h : m.openProgram path = .error e) (hp : isPassedOver e = true)
    (isRefused : Bool) (last : OsError) :
    ∃ isRefused', m.firstWords isRefused last (path :: paths) = m.firstWords isRefused' e paths := by
  rw [firstWords, shellWords_of_error h]
  dsimp only
  by_cases hd : e = .accessDenied
  · exact ⟨true, if_pos hd⟩
  · have ha : e.isAbsence = true := by simpa [isPassedOver, hd] using hp
    exact ⟨isRefused, (if_neg hd).trans (if_pos ha)⟩

theorem firstWords_stopped (h : m.openProgram path = .error e) (hp : isPassedOver e = false) (isRefused : Bool)
    (last : OsError) : m.firstWords isRefused last (path :: paths) = .error e := by
  obtain ⟨hd, ha⟩ : e ≠ .accessDenied ∧ e.isAbsence = false := by simpa [isPassedOver] using hp
  rw [firstWords, shellWords_of_error h]
  simp [hd, ha]

theorem firstWords_of_startFile? (h : m.startFile? paths = some path) (hw : m.shellWords path = .ok ws)
    (isRefused : Bool) (last : OsError) : m.firstWords isRefused last paths = .ok ws := by
  induction paths generalizing isRefused last with
  | nil => cases h
  | cons head rest ih =>
    rw [startFile?] at h
    cases ho : m.openProgram head with
    | ok r =>
      rw [ho] at h
      obtain rfl : head = path := Option.some.inj h
      rw [firstWords, hw]
    | error e =>
      rw [ho] at h
      cases hp : isPassedOver e with
      | true =>
        obtain ⟨isRefused', hnext⟩ := firstWords_passed rest ho hp isRefused last
        rw [hnext]
        exact ih (by simpa [hp] using h) _ _
      | false => simp [hp] at h

theorem firstWords_of_none (h : m.startFile? paths = none) (isRefused : Bool) (last : OsError) :
    ∃ e, m.firstWords isRefused last paths = .error e := by
  induction paths generalizing isRefused last with
  | nil => exact ⟨_, rfl⟩
  | cons head rest ih =>
    rw [startFile?] at h
    cases ho : m.openProgram head with
    | ok r => simp [ho] at h
    | error e =>
      rw [ho] at h
      cases hp : isPassedOver e with
      | true =>
        obtain ⟨isRefused', hnext⟩ := firstWords_passed rest ho hp isRefused last
        rw [hnext]
        exact ih (by simpa [hp] using h) _ _
      | false => exact ⟨e, firstWords_stopped ho hp isRefused last⟩

theorem start_of_startFile? (argv : List Bytes) (h : m.startFile? (m.startPaths (argv.headD [])) = some path)
    (hw : m.shellWords path = .ok ws) (e : OsError) : m.start argv ≠ .error (.os e) := by
  unfold start
  rw [firstWords_of_startFile? h hw]
  split <;> simp

theorem start_of_none (h : m.startFile? (m.startPaths (argv.headD [])) = none) : ∃ c, m.start argv = .error c := by
  obtain ⟨e, he⟩ := firstWords_of_none h false .noEntry
  unfold start
  rw [he]
  split <;> exact ⟨_, rfl⟩

/-- A path of which nothing worse can be said than that there is nothing. -/
def Plain (m : Machine) (path : Bytes) : Prop :=
  ∀ c, m.locate path = .error c → c = .os .noEntry ∨ c = .os .notADirectory

theorem proper_of_plain (h : m.Plain path) (hne : path ≠ []) : Tree.Proper path := by
  have hclean : 0 ∉ path := by
    intro hz
    have hl : m.locate path = .error .nulInPath := by simp [locate, Tree.locate, hz]
    exact absurd (h _ hl) (by decide)
  refine ⟨hclean, hne, Nat.not_lt.1 fun hlong => ?_⟩
  have hl : m.locate path = .error (.os .nameTooLong) := by simp [locate, Tree.locate, hclean, hne, hlong]
  exact absurd (h _ hl) (by decide)

theorem openProgram_of_plain (h : m.Plain path) (hp : m.isProgram path = false) :
    ∃ e, m.openProgram path = .error e ∧ isPassedOver e = true := by
  unfold Plain at h
  unfold openProgram
  unfold isProgram at hp
  cases hl : m.locate path with
  | error c =>
    rcases h c hl with rfl | rfl
    · dsimp only
      split <;> exact ⟨_, rfl, by decide⟩
    · dsimp only
      split <;> exact ⟨_, rfl, by decide⟩
  | ok s =>
    rw [hl] at hp
    cases s with
    | file l executable data =>
      obtain rfl : executable = false := hp
      exact ⟨_, rfl, by decide⟩
    | _ => exact ⟨_, rfl, by decide⟩

theorem exists_startFile? (hp : ∀ path ∈ paths, m.Plain path) (h : ∃ path ∈ paths, m.isProgram path = true) :
    ∃ path, m.startFile? paths = some path := by
  induction paths with
  | nil => simp at h
  | cons head rest ih =>
    rw [startFile?]
    cases hi : m.isProgram head with
    | true =>
      obtain ⟨r, hr⟩ := openProgram_eq_ok_iff.2 hi
      exact ⟨head, by rw [hr]⟩
    | false =>
      obtain ⟨e, he, hpassed⟩ := openProgram_of_plain (hp head (by simp)) hi
      obtain ⟨path, hpath⟩ := ih (fun p hmem => hp p (by simp [hmem])) (by simpa [hi] using h)
      exact ⟨path, by simp only [he, hpassed, if_true, hpath]⟩

/-! The directories of a search path -/

theorem components_of_isName (hn : Path.IsName program) : Path.components program = [.name program] := by
  have hsilent : Path.isSilent program = false := by simp [Path.isSilent, hn.nonempty, hn.notDot]
  simp [Path.components, Move.segments_of_isName hn, Path.leading, Move.isAbsolute_of_isName hn, hn.notDot,
    Path.ofSegment, hsilent, hn.notDotDot]

theorem expandHome_of_isAbsolute (hd : Path.isAbsolute dir = true) : m.expandHome dir = dir := by
  unfold expandHome Path.components
  cases hs : Path.segments dir with
  | nil => rfl
  | cons first rest => simp [Path.leading, hd]

theorem candidates_of_isName (hn : Path.IsName program) :
    m.candidates program =
      match m.env.get? pathVar with
      | some dirs => (searchDirs dirs).map fun d => Path.join (m.expandHome d) program
      | none => [] := by
  unfold candidates
  rw [components_of_isName hn]
  cases m.currentDir? <;> rfl

theorem findProgram?_of_isName (hn : Path.IsName program) (h : m.findProgram? program ≠ none) :
    ∃ dirs, m.env.get? pathVar = some dirs ∧
      ∃ d ∈ searchDirs dirs, m.isProgram (Path.join (m.expandHome d) program) = true := by
  obtain ⟨path, hpath⟩ := Option.ne_none_iff_exists'.1 h
  have hprogram := List.find?_some hpath
  have hmem := List.mem_of_find?_eq_some hpath
  rw [candidates_of_isName hn] at hmem
  cases hd : m.env.get? pathVar with
  | none => simp [hd] at hmem
  | some dirs =>
    obtain ⟨d, hdir, rfl⟩ : ∃ d ∈ searchDirs dirs, Path.join (m.expandHome d) program = path := by simpa [hd] using hmem
    exact ⟨dirs, rfl, d, hdir, hprogram⟩

theorem inDir_eq_join (hd : dir ≠ []) (hn : Path.IsName program) :
    inDir dir program = Path.join (dir ++ [Path.slash]) program := by
  simp [inDir, hd, Path.join, Move.isAbsolute_of_isName hn]

theorem locate_inDir {t : Tree} {p : Place} {follow : Bool} (hd : Path.isAbsolute dir = true) (hn : Path.IsName program)
    (hp : Tree.Proper (inDir dir program)) (hp' : Tree.Proper (Path.join dir program)) :
    t.locate follow p (inDir dir program) = t.locate follow p (Path.join dir program) := by
  have hne := Path.ne_nil_of_isAbsolute hd
  have hne' : dir ++ [Path.slash] ≠ [] := by simp
  have habs : Path.isAbsolute (dir ++ [Path.slash]) = true := by
    cases dir with
    | nil => contradiction
    | cons b dir => exact hd
  have horigin : Tree.origin p (dir ++ [Path.slash]) = Tree.origin p dir := by simp [Tree.origin, hd, habs]
  rw [Tree.locate_eq hp, Tree.locate_eq hp', inDir_eq_join hne hn, Tree.origin_join hne' hn, Tree.origin_join hne hn,
    Move.ofPath_join hne' hn, Move.ofPath_join hne hn, Move.filterMap_segments_slash, horigin]

theorem isProgram_iff : m.isProgram path = true ↔ ∃ l data, m.locate path = .ok (.file l true data) := by
  unfold isProgram
  cases m.locate path with
  | error c => simp
  | ok s => cases s <;> simp

theorem isProgram_inDir (ht : m.tree.Within m'.tree) (hd : Path.isAbsolute dir = true) (hn : Path.IsName program)
    (hp : m'.Plain (inDir dir program)) (h : m.isProgram (Path.join dir program) = true) :
    m'.isProgram (inDir dir program) = true := by
  obtain ⟨l, data, hl⟩ := isProgram_iff.1 h
  have hproper := Tree.proper_of_locate hl
  have hne := Path.ne_nil_of_isAbsolute hd
  have habs : Path.isAbsolute (Path.join dir program) = true := by rw [Tree.isAbsolute_join hne hn, hd]
  have hproper' : Tree.Proper (inDir dir program) := proper_of_plain hp (by simp [inDir, hne])
  refine isProgram_iff.2 ⟨l, data, ?_⟩
  rw [locate, locate_inDir hd hn hproper' hproper, Tree.locate_of_isAbsolute habs]
  exact Tree.locate_within ht (by simp) hl

theorem startDirs_eq {value : Bytes} (h : ∀ d ∈ searchDirs value, d.length ≤ Tree.pathLimit) :
    startDirs value = searchDirs value := by
  unfold startDirs
  generalize searchDirs value = dirs at h
  cases hd : dirs.getLast? with
  | none =>
    rw [List.getLast?_eq_none_iff.1 hd]
    rfl
  | some last =>
    obtain ⟨front, rfl⟩ := List.getLast?_eq_some_iff.1 hd
    have hlast : last.length ≤ Tree.pathLimit := h last (by simp)
    have hfront : front.map (fun d => if d.length ≤ Tree.pathLimit then d else []) = front.map id :=
      List.map_congr_left fun d hmem => if_pos (h d (by simp [hmem]))
    simp [hlast, hfront]

/-- A search path by which a program is found from everywhere alike: its directories are absolute, and where the program
is not, it is absent. -/
def Reliable (m : Machine) (program : Bytes) : Prop :=
  ∀ dirs, m.env.get? pathVar = some dirs →
    ∀ d ∈ searchDirs dirs, Path.isAbsolute d = true ∧ m.Plain (inDir d program)

theorem Reliable.startPaths_eq {dirs : Bytes} (hr : m.Reliable program) (hn : Path.IsName program)
    (hdirs : m.env.get? pathVar = some dirs) :
    m.startPaths program = (searchDirs dirs).map fun d => inDir d program := by
  have hfits : ∀ d ∈ searchDirs dirs, d.length ≤ Tree.pathLimit := by
    intro d hmem
    obtain ⟨habs, hplain⟩ := hr dirs hdirs d hmem
    have hne := Path.ne_nil_of_isAbsolute habs
    have hshort := (proper_of_plain hplain (by simp [inDir, hne])).short
    simp only [inDir, hne, if_false, List.length_append] at hshort
    omega
  have hslash : program.elem Path.slash = false := by simpa using hn.noSlash
  simp only [startPaths, hn.nonempty, hslash, Bool.false_eq_true, if_false, searchPaths, hdirs, Option.getD_some,
    startDirs_eq hfits]

/-- A program that a check has found is found when it is to be started, wherever that is, as long as the search path is
reliable there, and is the same, and no file has gone. -/
theorem startFile?_of_findProgram? (hn : Path.IsName program) (hfound : m.findProgram? program ≠ none)
    (henv : m'.env.get? pathVar = m.env.get? pathVar) (ht : m.tree.Within m'.tree) (hr : m'.Reliable program) :
    ∃ path, m'.startFile? (m'.startPaths program) = some path := by
  obtain ⟨dirs, hdirs, d, hmem, hprogram⟩ := findProgram?_of_isName hn hfound
  have hdirs' : m'.env.get? pathVar = some dirs := henv.trans hdirs
  obtain ⟨habs, hplain⟩ := hr dirs hdirs' d hmem
  rw [expandHome_of_isAbsolute habs] at hprogram
  rw [hr.startPaths_eq hn hdirs']
  apply exists_startFile?
  · intro path hpath
    obtain ⟨d', hmem', rfl⟩ := List.mem_map.1 hpath
    exact (hr dirs hdirs' d' hmem').2
  · exact ⟨_, List.mem_map_of_mem hmem, isProgram_inDir ht habs hn hplain hprogram⟩

end Slipway.Machine
