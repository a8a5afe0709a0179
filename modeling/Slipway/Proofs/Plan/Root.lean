import Slipway.Proofs.Path.Split
import Slipway.Proofs.Plan.FileName
set_option autoImplicit false

namespace Slipway.PackPlan

variable {onlyCli : Bool} {root : Bytes} {project : Text} {d : Date}

theorem exists_ofRoot_iff :
    (∃ plan, ofRoot onlyCli root project d = .ok plan) ↔
      ∃ before n, before ≠ [] ∧ Path.components root = before ++ [.name n] := by
  simp only [ofRoot_eq_ok_iff]
  constructor
  · rintro ⟨_, dir, n, hs, hne, -⟩
    exact ⟨Path.components dir, n, mt Path.components_eq_nil_iff.1 hne, (Path.components_of_split? hs).1⟩
  · rintro ⟨before, n, hne, hroot⟩
    cases hs : Path.split? root with
    | none =>
      rcases Path.split?_eq_none_iff.1 hs with h | h
      · simp [hroot] at h
      · cases before <;> simp_all
    | some split =>
      obtain ⟨dir, c⟩ := split
      have hsplit := (Path.components_of_split? hs).1
      obtain ⟨rfl, hc⟩ := List.append_inj' (hroot.symm.trans hsplit) rfl
      obtain rfl := (List.cons.inj hc).1
      exact ⟨_, dir, n, rfl, mt Path.components_eq_nil_iff.2 hne, rfl⟩

/-- A plan is made exactly for a root whose last component is a name, with other components before it.  Of these the plan's
directory has all, and its member is the name, which the directory joined with it has at its end again; so is the archive's
file name at the end of the path it is written to.  Any other root is refused and told back as it is. -/
theorem ofRoot_divides (onlyCli : Bool) (root : Bytes) (project : Text) (d : Date) :
    ((∃ plan, ofRoot onlyCli root project d = .ok plan) ↔
      ∃ before n, before ≠ [] ∧ Path.components root = before ++ [.name n]) ∧
    (∀ plan, ofRoot onlyCli root project d = .ok plan →
      plan.directory ≠ [] ∧ Path.IsName plan.member ∧
      Path.components root = Path.components plan.directory ++ [.name plan.member] ∧
      Path.components (Path.join plan.directory plan.member) = Path.components root ∧
      ('/' ∉ project →
        Path.components plan.outputPath = Path.components plan.directory ++ [.name (utf8 (fileNameFor project d))])) ∧
    ∀ f, ofRoot onlyCli root project d = .error f → f = .atPath root .noParent := by
  refine ⟨exists_ofRoot_iff, fun plan h => ?_, fun f => eq_of_ofRoot_error⟩
  obtain ⟨dir, n, hs, hne, rfl⟩ := ofRoot_eq_ok_iff.1 h
  have hroot := (Path.components_of_split? hs).1
  have hname : Path.IsName n := Path.isName_of_mem_components (p := root) (by simp [hroot])
  refine ⟨hne, hname, hroot, ?_, fun hp => ?_⟩
  · rw [Path.components_join hne hname, hroot]
  · exact Path.components_join hne (isName_fileNameFor hp d)

theorem ofRoot_divides_spelled :
    let root := utf8 "//src/.//".toList ++ [0x66, 0xff] ++ utf8 "/./".toList
    let today : Date := ⟨2024, 3, 5, by decide, by decide, by decide, by decide, by decide, by decide⟩
    ∃ plan, ofRoot false root projectName today = .ok plan ∧ plan.member = [0x66, 0xff] ∧
      Path.components plan.outputPath =
        [.root, .name (utf8 "src".toList), .name (utf8 "fofimon-20240305.tar.gz".toList)] := by
  intro root today
  have hcomponents : Path.components root = [.root, .name (utf8 "src".toList)] ++ [.name [0x66, 0xff]] := by decide
  obtain ⟨hmade, hparts, -⟩ := ofRoot_divides false root projectName today
  obtain ⟨plan, hplan⟩ := hmade.2 ⟨_, _, by simp, hcomponents⟩
  obtain ⟨-, -, hroot, -, hpath⟩ := hparts plan hplan
  obtain ⟨hdirectory, hmember⟩ := List.append_inj' (hcomponents.symm.trans hroot) rfl
  refine ⟨plan, hplan, (Component.name.inj (List.cons.inj hmember).1).symm, ?_⟩
  rw [hpath (by decide), ← hdirectory]
  decide +kernel

end Slipway.PackPlan
