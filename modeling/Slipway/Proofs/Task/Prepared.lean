import Slipway.Proofs.Machine.Growth
import Slipway.Proofs.Task.Handed
import Slipway.Proofs.Task.Preparation
set_option autoImplicit false

namespace Slipway

namespace Install

variable {s : Settings} {r : InstallRequest} {m ready : Machine} {q p : Place} {e : Errand Unit}

/-- A build that is ready: all its checks have passed, and its directory has been added if it was not there. -/
structure Prepared (s : Settings) (r : InstallRequest) (m ready : Machine) (q : Place) : Prop where
  root : m.locate s.projectRoot = .ok (.dir q)
  project : m.isFile (Path.join s.projectRoot projectFile) = true
  tools : Tools.Allow s m (plan s r).steps
  place : ready.place = m.place
  env : ready.env = m.env
  files : (m.isDir (plan s r).directory = true ∧ ready.tree = m.tree) ∨
    m.tree.node? (q.location ++ [InstallPlan.directoryName]) = none ∧
      ready.tree = m.tree.insert (q.location ++ [InstallPlan.directoryName]) .dir

theorem prepared_of_ok (h : prepare s r m = (.ok e, ready)) : e = errand s r ∧ ∃ q, Prepared s r m ready q := by
  by_cases hd : m.isDir s.projectRoot = true
  case neg =>
    rw [prepare_of_not_isDir (Bool.eq_false_iff.2 hd)] at h
    cases h
  by_cases hf : m.isFile (Path.join s.projectRoot projectFile) = true
  case neg =>
    rw [prepare_of_not_isFile hd (Bool.eq_false_iff.2 hf)] at h
    cases h
  by_cases ht : Tools.Allow s m (plan s r).steps
  case neg =>
    obtain ⟨hskip, step, hl⟩ := Tools.lacking_of_not_allow ht
    obtain ⟨m', -, -, -, hprepare⟩ := prepare_of_lacking hd hf hskip hl
    rw [hprepare] at h
    cases h
  obtain ⟨q, hq⟩ := Machine.isDir_iff.1 hd
  by_cases hb : m.isDir (plan s r).directory = true
  · obtain ⟨m', htree, hplace, henv, hprepare⟩ := prepare_of_isDir hq hf ht hb
    rw [hprepare] at h
    cases h
    exact ⟨rfl, q, hq, hf, ht, hplace, henv, .inl ⟨hb, htree⟩⟩
  · obtain ⟨m', htree, hplace, henv, hprepare⟩ := prepare_of_not_isDir_directory hq hf ht (Bool.eq_false_iff.2 hb)
    rw [hprepare] at h
    cases hn : m.tree.node? (q.location ++ [InstallPlan.directoryName]) with
    | some node =>
      rw [hn] at h
      cases h
    | none =>
      rw [hn] at h
      cases h
      exact ⟨rfl, q, hq, hf, ht, hplace, henv, .inr ⟨hn, rfl⟩⟩

theorem Prepared.within (h : Prepared s r m ready q) : m.tree.Within ready.tree := by
  rcases h.files with ⟨-, htree⟩ | ⟨hn, htree⟩
  · rw [htree]
    exact .refl _
  · rw [htree]
    exact Tree.within_insert .dir hn

theorem Prepared.locate (h : Prepared s r m ready q) {path : Bytes} {spot : Spot} (hs : ∀ l, spot ≠ .free l)
    (hp : m.locate path = .ok spot) : ready.locate path = .ok spot := by
  rw [Machine.locate, h.place]
  exact Tree.locate_within h.within hs hp

theorem Prepared.directory (h : Prepared s r m ready q) (hp : ready.locate (plan s r).directory = .ok (.dir p)) :
    (∀ target, m.tree.node? (q.location ++ [InstallPlan.directoryName]) ≠ some (.link target)) →
      p.up = q := by
  intro hlink
  have hroot := h.locate (by simp) h.root
  obtain ⟨links, hwalk⟩ := Tree.walk_of_locate_join hroot isName_directoryName hp
  have hstanding := (Tree.passes_of_walk hwalk).standing
  have hdown : p = q.down InstallPlan.directoryName := by
    rcases Tree.dir_or_link_of_walk hwalk with ⟨-, hdown⟩ | ⟨target, hnode⟩
    · exact hdown
    · rcases h.files with ⟨-, htree⟩ | ⟨hn, htree⟩
      · rw [htree] at hnode
        exact absurd hnode (hlink target)
      · rw [htree, Tree.node?_insert_self _ _ _ (Tree.ne_nil_of_node? hn) hn] at hnode
        cases hnode
  obtain ⟨location, lost⟩ := q
  obtain rfl : lost = 0 := hstanding
  rw [hdown]
  simp [Place.down, Place.up]

theorem handed_over {σ : Type} {ex : Runner σ} {state : σ} {h : Handover σ}
    (hh : h ∈ (install s r ex.traced (state, []) m).2.1.2) :
    ∃ ready way inside q, Prepared s r m ready q ∧
      Errand.UnderWay ex state (.ok (errand s r), ready) (install s r ex.traced (state, []) m).2.1.2 (errand s r) way
        inside := by
  rw [install_eq] at hh ⊢
  obtain ⟨e, way, inside, hu⟩ := Errand.handed_over hh
  rcases hp : prepare s r m with ⟨result, ready⟩
  rw [hp] at hu
  obtain rfl : result = .ok e := hu.prepared
  obtain ⟨rfl, q, hprepared⟩ := prepared_of_ok hp
  exact ⟨ready, way, inside, q, hprepared, hu⟩

end Install

namespace Pack

theorem prepared_of_ok {s : Settings} {r : PackRequest} {today : Date} {m ready : Machine} {e : Errand PackPlan}
    (h : prepare s r today m = (.ok e, ready)) :
    ∃ plan : PackPlan, e.steps = [plan.step] ∧ ready.env = m.env ∧ Tools.Allow s m [plan.step] := by
  unfold prepare at h
  split at h
  · cases h
  · split at h
    · cases h
    · rename_i plan _
      split at h
      · cases h
      · rename_i checked hc
        split at h
        · cases h
        · rename_i probed hprobe
          cases h
          exact ⟨plan, rfl, (env_probe hprobe).trans (Machine.quiet_env.requireFor hc),
            Tools.requireFor_eq_ok_iff.1 (by rw [hc])⟩

end Pack

end Slipway
