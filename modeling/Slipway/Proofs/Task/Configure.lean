import Slipway.Proofs.Task.Prepared
set_option autoImplicit false

/-!
Which project the configure step configures.  It names the project by `..`, the parent of the directory it is started in,
while the project file has been looked for below the project root.  The two are one directory however the root is spelt
and whatever links lead to it, unless the build directory itself stands behind a link: `..` is then the parent of the
directory the link leads to (`Install.configure_parent`, `Install.configure_behind_link`).
-/

namespace Slipway

theorem Machine.locate_dotDot (m : Machine) : m.locate Path.dotDot = .ok (.dir m.place.up) := rfl

namespace InstallPlan

theorem configure_not_mem (r : InstallRequest) (args : List Text) (withSudo : Bool) :
    configure r ∉ [compile args, installStep withSudo] := by
  have hcompile : "configure".toList ≠ "compile".toList := by decide
  have hinstall : "configure".toList ≠ "install".toList := by decide
  simp only [List.mem_cons, List.not_mem_nil, or_false, not_or]
  exact ⟨fun h => hcompile (congrArg Step.name h), fun h => hinstall (congrArg Step.name h)⟩

end InstallPlan

namespace Install

variable {σ : Type} {s : Settings} {r : InstallRequest} {ex : Runner σ} {state : σ} {m : Machine} {h : Handover σ}

theorem place_configure (hh : h ∈ (install s r ex.traced (state, []) m).2.1.2) (hc : h.step = InstallPlan.configure r) :
    ∃ ready q, Prepared s r m ready q ∧ ready.locate (plan s r).directory = .ok (.dir h.given.2.place) := by
  obtain ⟨ready, way, inside, q, hprepared, hu⟩ := handed_over hh
  obtain ⟨p, event, -, hp, hinside⟩ := Run.of_enter_eq_ok hu.entered
  have hplace : h.given.2.place = inside.place :=
    hu.given_first rfl (InstallPlan.configure_not_mem r _ _) Machine.quiet_place hh hc
  rw [hinside, Machine.place_emit] at hplace
  exact ⟨ready, q, hprepared, by rw [hplace]; exact hp⟩

/-- The parent of the directory in which the configure step starts is the project root in which the project file has been
found, unless there is a link in the build directory's stead; then it is the parent of where that leads. -/
theorem configure_parent (s : Settings) (r : InstallRequest) (ex : Runner σ) (state : σ) (m : Machine) (h : Handover σ)
    (hh : h ∈ (install s r ex.traced (state, []) m).2.1.2) (hc : h.step = InstallPlan.configure r) :
    ∃ q, m.locate s.projectRoot = .ok (.dir q) ∧ m.isFile (Path.join s.projectRoot projectFile) = true ∧
      let site := q.location ++ [InstallPlan.directoryName]
      ((∀ target, m.tree.node? site ≠ some (.link target)) → h.given.2.locate Path.dotDot = .ok (.dir q)) ∧
      ∀ target, m.tree.node? site = some (.link target) →
        ∃ p, m.locate (Path.join s.projectRoot InstallPlan.directoryName) = .ok (.dir p) ∧
          h.given.2.locate Path.dotDot = .ok (.dir p.up) := by
  obtain ⟨ready, q, hprepared, hdirectory⟩ := place_configure hh hc
  refine ⟨q, hprepared.root, hprepared.project, fun hlink => ?_, fun target htarget => ?_⟩
  · rw [Machine.locate_dotDot, hprepared.directory hdirectory hlink]
  · rcases hprepared.files with ⟨-, htree⟩ | ⟨hn, -⟩
    · rw [Machine.locate, htree, hprepared.place] at hdirectory
      exact ⟨h.given.2.place, hdirectory, Machine.locate_dotDot _⟩
    · rw [hn] at htarget
      cases htarget

theorem configure_parent_linkedRoot :
    let m := Machine.ofFiles
      [(["p"], .dir), (["p", "CMakeLists.txt"], .file false []), (["s"], .link (utf8 "p".toList))]
    let run := install ⟨utf8 "/s".toList, none, true⟩ .standard Runner.rehearsed.traced ([], []) m
    ∃ h ∈ run.2.1.2, h.step = InstallPlan.configure .standard ∧
      h.given.2.locate Path.dotDot = .ok (.dir ⟨[utf8 "p".toList], 0⟩) := by
  intro m run
  obtain ⟨h, hh, hstep⟩ : ∃ h ∈ run.2.1.2, h.step = InstallPlan.configure .standard :=
    ⟨run.2.1.2.head (by decide), List.head_mem _, rfl⟩
  obtain ⟨q, hq, -, hparent, -⟩ := configure_parent _ _ _ _ _ h hh hstep
  have hroot : m.locate (utf8 "/s".toList) = .ok (.dir ⟨[utf8 "p".toList], 0⟩) := rfl
  obtain rfl : ⟨[utf8 "p".toList], 0⟩ = q := Spot.dir.inj (Except.ok.inj (hroot.symm.trans hq))
  have hsite : m.tree.node? [utf8 "p".toList, InstallPlan.directoryName] = none := rfl
  refine ⟨h, hh, hstep, hparent fun target htarget => ?_⟩
  cases hsite.symm.trans htarget

/-- With a link to another place in the build directory's stead, `..` is not the project root. -/
theorem configure_behind_link :
    let m := Machine.ofFiles
      [(["p"], .dir), (["p", "CMakeLists.txt"], .file false []), (["p", "build"], .link (utf8 "/o/b".toList)),
        (["o"], .dir), (["o", "b"], .dir)]
    let run := install ⟨utf8 "/p".toList, none, true⟩ .standard Runner.rehearsed.traced ([], []) m
    ∃ h ∈ run.2.1.2, h.step = InstallPlan.configure .standard ∧
      m.locate (utf8 "/p".toList) = .ok (.dir ⟨[utf8 "p".toList], 0⟩) ∧
      h.given.2.locate Path.dotDot = .ok (.dir ⟨[utf8 "o".toList], 0⟩) := by
  intro m run
  exact ⟨run.2.1.2.head (by decide), List.head_mem _, rfl, rfl, rfl⟩

end Install

end Slipway
