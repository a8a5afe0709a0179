import Slipway.Proofs.Machine.Sound
import Slipway.Proofs.Settings.Reading
set_option autoImplicit false

namespace Slipway

namespace Tree

variable {t : Tree} {q : Place} {l : Location} {root n : Bytes} {s : Spot}

theorem node?_ne_none_of_locate_join (ht : t.Sound) (hl : t.node? l = some .dir) (hn : Path.IsName n)
    (h : t.locate true q (Path.join (Location.path l) n) = .ok s) (hfree : ∀ k, s ≠ .free k) :
    t.node? (l ++ [n]) ≠ none := by
  have hr : Location.path l ≠ [] := by simp [Location.path]
  have hdir : t.locate true q (Location.path l) = .ok (.dir ⟨l, 0⟩) :=
    locate_path ht hl ((proper_of_locate h).of_join hr (Move.isAbsolute_of_isName hn))
  obtain ⟨links, hwalk⟩ := walk_of_locate_join hdir hn h
  intro hnone
  rw [walk_name_free (passes_of_walk hwalk) hnone] at hwalk
  exact hfree _ (Except.ok.inj hwalk).symm

end Tree

namespace DotEnv

variable {m : Machine} {d : Bytes} {ds : List Bytes} {content : Bytes}

def Has (m : Machine) (d content : Bytes) : Prop :=
  ∃ l executable, m.locate (Path.join d fileName) = .ok (.file l executable content)

/-- The directory has no file to read, and nothing else that is in the way of the search. -/
def IsPassed (m : Machine) (d : Bytes) : Prop :=
  m.locate (Path.join d fileName) = .error (.os .noEntry) ∨
    ∃ s, m.locate (Path.join d fileName) = .ok s ∧ ∀ l executable content, s ≠ .file l executable content

theorem searchIn_cons_eq_found_iff :
    searchIn m (d :: ds) = .found content ↔ Has m d content ∨ IsPassed m d ∧ searchIn m ds = .found content := by
  unfold Has IsPassed
  rw [searchIn]
  cases m.locate (Path.join d fileName) with
  | error c => by_cases hc : c = .os .noEntry <;> simp [hc]
  | ok s =>
    cases s with
    | file l executable data =>
      constructor
      · intro h
        cases h
        exact .inl ⟨l, executable, rfl⟩
      · rintro (⟨_, _, h⟩ | ⟨h | ⟨s, h, hnot⟩, -⟩)
        · cases h
          rfl
        · cases h
        · exact absurd (Except.ok.inj h).symm (hnot l executable data)
    | _ => simp

theorem searchIn_eq_found_iff (dirs : Nat → Bytes) (n : Nat) :
    searchIn m ((List.range n).reverse.map dirs) = .found content ↔
      ∃ k, k < n ∧ Has m (dirs k) content ∧ ∀ j, k < j → j < n → IsPassed m (dirs j) := by
  induction n with
  | zero => simp [searchIn]
  | succ n ih =>
    -- The list begins with the highest number, so that is the directory the search looks at first.
    rw [List.range_succ, List.reverse_append, List.reverse_singleton, List.singleton_append, List.map_cons,
      searchIn_cons_eq_found_iff, ih]
    constructor
    · rintro (hhas | ⟨hpassed, k, hk, hhas, hnearer⟩)
      · exact ⟨n, Nat.lt_succ_self n, hhas, fun j hj hj' => absurd hj (by omega)⟩
      · refine ⟨k, by omega, hhas, fun j hj hj' => ?_⟩
        rcases Nat.lt_succ_iff_lt_or_eq.1 hj' with hj' | rfl
        · exact hnearer j hj hj'
        · exact hpassed
    · rintro ⟨k, hk, hhas, hnearer⟩
      rcases Nat.lt_succ_iff_lt_or_eq.1 hk with hk | rfl
      · exact .inr ⟨hnearer n hk (Nat.lt_succ_self n), k, hk, hhas, fun j hj hj' => hnearer j hj (by omega)⟩
      · exact .inl hhas

/-- The directory `depth` names deep has the file that is the nearest to the current directory. -/
structure Nearest (m : Machine) (depth : Nat) (content : Bytes) : Prop where
  here : m.place.lost = 0
  above : depth ≤ m.place.location.length
  has : Has m (Location.path (m.place.location.take depth)) content
  passed : ∀ k, depth < k → k ≤ m.place.location.length → IsPassed m (Location.path (m.place.location.take k))

theorem search_eq_found_iff : search m = .found content ↔ ∃ depth, Nearest m depth content := by
  unfold search Machine.currentDir?
  by_cases hlost : m.place.lost = 0
  · rw [if_pos hlost]
    dsimp only
    rw [places, searchIn_eq_found_iff fun n => Location.path (m.place.location.take n)]
    constructor
    · rintro ⟨k, hk, hhas, hpassed⟩
      exact ⟨k, hlost, Nat.lt_succ_iff.1 hk, hhas, fun j hj hj' => hpassed j hj (Nat.lt_succ_of_le hj')⟩
    · rintro ⟨k, -, hk, hhas, hpassed⟩
      exact ⟨k, Nat.lt_succ_of_le hk, hhas, fun j hj hj' => hpassed j hj (Nat.lt_succ_iff.1 hj')⟩
  · rw [if_neg hlost]
    exact iff_of_false (by simp) fun ⟨_, hnearest⟩ => hlost hnearest.here

theorem Nearest.node?_ne_none {depth : Nat} (hm : m.Sound) (h : Nearest m depth content) :
    m.tree.node? (m.place.location.take depth ++ [fileName]) ≠ none := by
  obtain ⟨l, executable, hlocate⟩ := h.has
  have hdir : m.tree.node? (m.place.location.take depth) = some .dir := by
    cases hd : m.place.location.drop depth with
    | nil =>
      have hwhole := List.take_append_drop depth m.place.location
      rw [hd, List.append_nil] at hwhole
      rw [hwhole]
      exact hm.here
    | cons n more =>
      have hthere : m.tree.node? (m.place.location.take depth ++ n :: more) ≠ none := by
        rw [← hd, List.take_append_drop, hm.here]
        simp
      exact hm.tree.closed.above hthere
  exact Tree.node?_ne_none_of_locate_join hm.tree hdir ⟨by decide, by decide, by decide, by decide⟩ hlocate (by simp)

theorem added_of_nearest {depth : Nat} (h : Nearest m depth content) :
    added m = additions (logicalLines content) [] m.env := by
  rw [added, search_eq_found_iff.2 ⟨depth, h⟩]

theorem load_of_not_nearest (h : ∀ depth content, ¬ Nearest m depth content) : ∃ c, load m = .ok (m, c) := by
  unfold load
  cases hs : search m with
  | nowhere => exact ⟨none, rfl⟩
  | failed c => exact ⟨some (.cause c), rfl⟩
  | found content =>
    obtain ⟨depth, hnearest⟩ := search_eq_found_iff.1 hs
    exact absurd hnearest (h depth content)

theorem foldl_added_eq_iff (m : Machine) : (added m).foldl Assignment.addTo m.env = m.env ↔ added m = [] := by
  refine ⟨fun hsame => List.eq_nil_iff_forall_not_mem.2 fun a ha => ?_, fun hnone => by rw [hnone, List.foldl_nil]⟩
  have hget := get?_foldl_addTo_of_mem (added m) m.env (added_nodup m) ha
  have hnew := added_new m a ha
  rw [Env.text?, ← hsame, hget, Option.bind_some, decode?_utf8] at hnew
  cases hnew

end DotEnv

namespace Settings

open DotEnv

/-- Where the current directory has no entry of that name, a file that counts is in a directory above it.  If there is no such
file, or the current directory has been removed, the environment stays, and the settings are read from it.  If there is
one, loading adds its assignments, and the settings are read from what comes of that; the environment stays only where
there is nothing to add. -/
theorem file_above_counts (base : Bytes) (m : Machine) (hm : m.Sound)
    (hfree : m.place.lost = 0 → m.tree.node? (m.place.location ++ [fileName]) = none) :
    (∀ depth content, Nearest m depth content → depth < m.place.location.length ∧
      m.tree.node? (m.place.location.take depth ++ [fileName]) ≠ none) ∧
    ((∀ depth content, ¬ Nearest m depth content) → (∃ c, load m = .ok (m, c)) ∧
      ∀ vars, m.env = .ofTexts vars → ∃ after, read base m = .ok (ofBindings vars base, after) ∧ after.env = m.env) ∧
    ∀ depth content, Nearest m depth content →
      let adds := additions (logicalLines content) [] m.env
      ((∃ m' c, load m = .ok (m', c)) ↔ ∀ a ∈ adds, '\x00' ∉ a.text) ∧
      ∀ m' c, load m = .ok (m', c) →
        m' = { m with env := adds.foldl Assignment.addTo m.env } ∧ (m'.env = m.env ↔ adds = []) ∧
        ∀ vars, m'.env = .ofTexts vars →
          ∃ after, read base m = .ok (ofBindings vars base, after) ∧ after.env = m'.env := by
  refine ⟨fun depth content h => ?_, fun hnone => ?_, fun depth content h => ?_⟩
  · have hthere := h.node?_ne_none hm
    refine ⟨Nat.lt_of_le_of_ne h.above fun he => hthere ?_, hthere⟩
    rw [he, List.take_length]
    exact hfree h.here
  · obtain ⟨c, hload⟩ := load_of_not_nearest hnone
    exact ⟨⟨c, hload⟩, fun vars hv => read_of_load base hload hv⟩
  · intro adds
    have hadded : added m = adds := added_of_nearest h
    rw [← hadded]
    constructor
    · obtain ⟨hclean, c, hload⟩ | ⟨a, ha, hnul, hload⟩ := load_cases m
      · exact iff_of_true ⟨_, c, hload⟩ hclean
      · refine iff_of_false (fun ⟨_, _, hload'⟩ => ?_) fun hclean => hclean a ha hnul
        cases hload.symm.trans hload'
    · intro m' c hload
      obtain rfl := eq_of_load hload
      exact ⟨rfl, foldl_added_eq_iff m, fun vars hv => read_of_load base hload hv⟩

def fileAbove : Machine :=
  { Machine.ofFiles [(["d"], .dir), ([".env"], .file false (utf8 "FOFIMON_SOURCE_DIR=/elsewhere\n".toList))] with
    place := ⟨[utf8 "d".toList], 0⟩ }

theorem file_above_counts_fileAbove :
    ∃ m' c, load fileAbove = .ok (m', c) ∧ ∃ after,
      read (utf8 "/d".toList) fileAbove = .ok (⟨utf8 "/elsewhere".toList, none, false⟩, after) ∧
        after.env = .ofTexts [(projectRootVar, "/elsewhere".toList)] := by
  have hsound : fileAbove.Sound := ⟨Tree.sound_of_entries (by decide), rfl⟩
  obtain ⟨depth, hnearest⟩ := search_eq_found_iff.1 (show search fileAbove = .found _ from rfl)
  obtain ⟨-, -, hcounts⟩ := file_above_counts (utf8 "/d".toList) fileAbove hsound fun _ => by decide
  obtain ⟨-, hloaded⟩ := hcounts depth _ hnearest
  refine ⟨_, _, rfl, ?_⟩
  obtain ⟨-, -, hread⟩ := hloaded _ _ rfl
  exact hread [(projectRootVar, "/elsewhere".toList)] rfl

theorem file_above_changes_settings :
    fileAbove.tree.node? (fileAbove.place.location ++ [fileName]) = none ∧
      ∃ m' c s after, load fileAbove = .ok (m', c) ∧ m'.env ≠ fileAbove.env ∧
        read (utf8 "/d".toList) fileAbove = .ok (s, after) ∧ s ≠ ofBindings [] (utf8 "/d".toList) :=
  ⟨by decide, _, _, _, _, rfl, by decide, rfl, by decide⟩

end Settings

end Slipway
