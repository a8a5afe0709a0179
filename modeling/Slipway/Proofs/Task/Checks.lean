import Slipway.Proofs.Task.CheckedPrograms
import Slipway.Proofs.Task.Judged
set_option autoImplicit false

namespace Slipway

section Occurrences

variable {α : Type} [BEq α] [LawfulBEq α] {xs ys : List α}

theorem pairwise_idxOf_firstOccurrences (xs : List α) :
    (firstOccurrences xs).Pairwise fun x y => xs.idxOf x < xs.idxOf y := by
  induction xs with
  | nil => exact .nil
  | cons x xs ih =>
    have hlater {y : α} (hy : y ∈ (firstOccurrences xs).filter (· != x)) : (x :: xs).idxOf y = xs.idxOf y + 1 := by
      have hne : y ≠ x := by simpa using (List.mem_filter.1 hy).2
      rw [List.idxOf_cons, beq_false_of_ne hne.symm, cond_false]
    refine List.pairwise_cons.2 ⟨fun y hy => ?_, (ih.filter _).imp_of_mem fun hy hz h => ?_⟩
    · simp [hlater hy]
    · rw [hlater hy, hlater hz]
      exact Nat.succ_lt_succ h

theorem firstOccurrences_append (xs ys : List α) :
    firstOccurrences (xs ++ ys) = firstOccurrences xs ++ (firstOccurrences ys).filter fun y => !xs.elem y := by
  induction xs with
  | nil => exact (List.filter_eq_self.2 fun _ _ => rfl).symm
  | cons x xs ih =>
    have hsame : (fun y => !(x :: xs).elem y) = fun y => y != x && !xs.elem y := by
      funext y
      by_cases hy : y = x <;> simp [hy]
    rw [List.cons_append, firstOccurrences, ih, List.filter_append, List.filter_filter, hsame, firstOccurrences,
      List.cons_append]

theorem firstOccurrences_insert (zs : List α) (h : ∀ y ∈ ys, y ∈ xs) :
    firstOccurrences (xs ++ ys ++ zs) = firstOccurrences (xs ++ zs) := by
  have hnone : (firstOccurrences ys).filter (fun y => !xs.elem y) = [] := by
    refine List.filter_eq_nil_iff.2 fun y hy => ?_
    simpa using h y ((mem_firstOccurrences y ys).1 hy)
  have hsame : (fun z => !(xs ++ ys).elem z) = fun z => !xs.elem z := by
    funext z
    by_cases hz : z ∈ xs
    · simp [hz]
    · have hy : z ∉ ys := fun hy => hz (h z hy)
      simp [hz, hy]
  rw [firstOccurrences_append (xs ++ ys), firstOccurrences_append xs ys, hnone, List.append_nil, hsame,
    firstOccurrences_append xs zs]

end Occurrences

namespace Tools

structure FirstUses (steps : List Step) (ps : List Bytes) : Prop where
  nodup : ps.Nodup
  mem : ∀ p, p ∈ ps ↔ p ≠ [] ∧ ∃ s ∈ steps, s.program = p
  ordered : ps.Pairwise fun p q => (steps.map Step.program).idxOf p < (steps.map Step.program).idxOf q

theorem firstUses (steps : List Step) : FirstUses steps (programs steps) where
  nodup := nodup_firstOccurrences _
  mem p := by
    rw [programs, mem_firstOccurrences, List.mem_filter, List.mem_map, bne_iff_ne, and_comm]
  ordered := by
    rw [programs, firstOccurrences_filter]
    exact (pairwise_idxOf_firstOccurrences _).filter _

theorem programs_insert {before more : List Step} (after : List Step)
    (h : ∀ s ∈ more, s.program = [] ∨ ∃ s' ∈ before, s'.program = s.program) :
    programs (before ++ more ++ after) = programs (before ++ after) := by
  simp only [programs, List.map_append, List.filter_append]
  refine firstOccurrences_insert _ fun p hp => ?_
  obtain ⟨hp, hne⟩ := List.mem_filter.1 hp
  obtain ⟨s, hs, rfl⟩ := List.mem_map.1 hp
  obtain ⟨s', hs', hsame⟩ := (h s hs).resolve_left (by simpa using hne)
  exact List.mem_filter.2 ⟨hsame ▸ List.mem_map_of_mem hs', hne⟩

theorem alike_require (m : Machine) (steps : List Step) : m.Alike (require m steps).2 :=
  ⟨Machine.quiet_tree.requireAll _ m, Machine.quiet_place.requireAll _ m, Machine.quiet_env.requireAll _ m⟩

theorem checks_of_alike {m m' : Machine} (h : m.Alike m') (steps : List Step) : checks m' steps = checks m steps := by
  have hcheck : check m' = check m := by
    funext p
    rw [check, check, h.findProgram?]
  rw [checks, checks, hcheck]

/-- What the check of the programs says of any steps.  It lists each program that they name once, in the order of first
use, with the path at which it is found; it passes if all can be found, and else complains about the program of the first
step that lacks its own.  Steps that are put in after others with the same programs change nothing of it, and neither
does a check made before. -/
theorem checks_report_programs (m : Machine) (steps : List Step) :
    (∃ ps, FirstUses steps ps ∧ checks m steps = ps.map fun p => ⟨lossy p, m.findProgram? p⟩) ∧
    ((require m steps).1 = .ok () ↔ ∀ s ∈ steps, ¬ Lacks m s) ∧
    (∀ f, (require m steps).1 = .error f ↔ ∃ before s after, steps = before ++ s :: after ∧
      (∀ s' ∈ before, ¬ Lacks m s') ∧ Lacks m s ∧
        f = .toolMissing (lossy s.program) (providerOf (lossy s.program))) ∧
    (∀ before more after, steps = before ++ after →
      (∀ s ∈ more, s.program = [] ∨ ∃ s' ∈ before, s'.program = s.program) →
        checks m (before ++ more ++ after) = checks m steps ∧ require m (before ++ more ++ after) = require m steps) ∧
    checks (require m steps).2 steps = checks m steps ∧
    (require (require m steps).2 steps).1 = (require m steps).1 := by
  have hagain := checks_of_alike (alike_require m steps) steps
  refine ⟨⟨programs steps, firstUses steps, rfl⟩, ?_, fun f => ?_, ?_, hagain, ?_⟩
  · exact require_eq_ok_iff
  · rw [require_eq_error_iff]
    constructor
    case mp =>
      rintro ⟨s, ⟨before, after, hsteps, hbefore, hlacks⟩, hf⟩
      exact ⟨before, s, after, hsteps, hbefore, hlacks, hf⟩
    case mpr =>
      rintro ⟨before, s, after, hsteps, hbefore, hlacks, hf⟩
      exact ⟨s, ⟨before, after, hsteps, hbefore, hlacks⟩, hf⟩
  · rintro before more after rfl hmore
    have hchecks : checks m (before ++ more ++ after) = checks m (before ++ after) := by
      rw [checks, checks, programs_insert after hmore]
    exact ⟨hchecks, by rw [require, require, hchecks]⟩
  · rw [require, hagain]
    -- The same list on another machine: only the log tells the two apart, and the result does not come from the log.
    exact (requireAll_result m _ _).trans (requireAll_result m _ _).symm

/-- Two programs that look alike are two programs; the first of them is complained about, whatever comes before it a second
time. -/
theorem checks_report_programs_lookalikes :
    let m := toolMachine "/b"
    let first : Step := ⟨"configure".toList, [utf8 "cmake".toList, utf8 ".".toList]⟩
    let again : List Step := [⟨"build".toList, [utf8 "cmake".toList]⟩, ⟨"nothing".toList, []⟩]
    let last : List Step := [⟨"strip".toList, [[0xFE]]⟩, ⟨"sign".toList, [[0xFF]]⟩]
    let complaint : Except Failure Unit := .error (.toolMissing ['\ufffd'] ['\ufffd'])
    checks m ([first] ++ again ++ last) =
        [⟨"cmake".toList, some (utf8 "/b/cmake".toList)⟩, ⟨['\ufffd'], none⟩, ⟨['\ufffd'], none⟩] ∧
      (require m ([first] ++ last)).1 = complaint ∧ (require m ([first] ++ again ++ last)).1 = complaint := by
  intro m first again last complaint
  obtain ⟨-, -, hcomplaint, hinsert, -⟩ := checks_report_programs m ([first] ++ last)
  obtain ⟨hchecks, hrequire⟩ := hinsert [first] again last rfl (by decide)
  have hfirst : (require m ([first] ++ last)).1 = complaint :=
    (hcomplaint _).2 ⟨[first], ⟨"strip".toList, [[0xFE]]⟩, [⟨"sign".toList, [[0xFF]]⟩], rfl, by decide, by decide, rfl⟩
  refine ⟨hchecks.trans rfl, hfirst, ?_⟩
  rw [hrequire, hfirst]

end Tools

end Slipway
