import Slipway.Proofs.Path.Lexical
set_option autoImplicit false

namespace Slipway.Path

variable {p dir n s first : Bytes} {c : Component} {rest ss : List Bytes}

section Silent

theorem ofSegment_eq_none_iff : ofSegment s = none ↔ isSilent s = true := by
  unfold ofSegment
  split
  · simp [*]
  · split <;> simp [*]

theorem ofSegment_ne_root : ofSegment s ≠ some .root := by
  unfold ofSegment
  split
  · simp
  · split <;> simp

theorem filterMap_dropWhile (ss : List Bytes) :
    (ss.dropWhile isSilent).filterMap ofSegment = ss.filterMap ofSegment := by
  induction ss with
  | nil => rfl
  | cons s ss ih =>
    by_cases hs : isSilent s = true
    · simp [hs, ih, ofSegment_of_isSilent hs]
    · simp [hs]

theorem filterMap_reverse_dropWhile (ss : List Bytes) :
    (ss.reverse.dropWhile isSilent).reverse.filterMap ofSegment = ss.filterMap ofSegment := by
  rw [List.filterMap_reverse, filterMap_dropWhile, List.filterMap_reverse, List.reverse_reverse]

end Silent

section Leading

theorem isAbsolute_of_segments (hp : p ≠ []) (hs : segments p = first :: rest) : isAbsolute p = (first == []) := by
  cases hab : isAbsolute p with
  | true =>
    obtain ⟨rest', hs'⟩ := segments_of_isAbsolute hab
    simp [(List.cons.inj (hs.symm.trans hs')).1]
  | false => simp [head_segments_ne_nil hab hp hs]

theorem components_eq (hp : p ≠ []) (hs : segments p = first :: rest) :
    components p =
      (if first == [] then some .root else if first == dot then some .here else ofSegment first).toList ++
        rest.filterMap ofSegment := by
  simp only [components, hs, leading, isAbsolute_of_segments hp hs]

theorem components_eq_nil_iff : components p = [] ↔ p = [] := by
  refine ⟨fun h => ?_, fun h => h ▸ rfl⟩
  by_cases hp : p = []
  · exact hp
  · cases hs : segments p with
    | nil => exact absurd hs (splitWhere_ne_nil _ _)
    | cons first rest =>
      rw [components_eq hp hs, List.append_eq_nil_iff] at h
      -- A first segment is silent only where it stands for the root or for a leading dot.
      by_cases hnil : first = []
      · simp [hnil] at h
      · by_cases hdot : first = dot
        · simp [hdot, dot] at h
        · have hspoken : ofSegment first ≠ none := fun h0 => by
            simpa [isSilent, hnil, hdot] using ofSegment_eq_none_iff.1 h0
          simp [hnil, hdot, hspoken] at h

end Leading

section Split

theorem components_ofSegments (h : ∀ t ∈ first :: ss, slash ∉ t) :
    components (ofSegments (first :: ss)) =
      (if first == [] then some .root else if first == dot then some .here else ofSegment first).toList ++
        ss.filterMap ofSegment := by
  cases first with
  | nil =>
    rw [ofSegments_eq, components_ofNames fun t ht => h t (List.mem_cons_of_mem _ ht)]
    rfl
  | cons b first =>
    have hjoin : ofSegments ((b :: first) :: ss) = joinWith [slash] ((b :: first) :: ss) := rfl
    have hne : joinWith [slash] ((b :: first) :: ss) ≠ [] := by cases ss <;> simp [joinWith]
    rw [hjoin, components_eq hne (splitWhere_joinWith (by simp) h)]

theorem split?_cases (h : split? p = some (dir, c)) :
    ∃ first rest, segments p = first :: rest ∧
      ((∃ last before, rest.reverse.dropWhile isSilent = last :: before ∧ ofSegment last = some c ∧
          dir = ofSegments (first :: (before.dropWhile isSilent).reverse)) ∨
        rest.reverse.dropWhile isSilent = [] ∧ leading p first = some c ∧ c ≠ .root ∧ dir = []) := by
  unfold split? at h
  split at h
  · cases h
  next first rest hs =>
    refine ⟨first, rest, hs, ?_⟩
    split at h
    next last before hd =>
      obtain ⟨c', hlast, heq⟩ := Option.map_eq_some_iff.1 h
      obtain ⟨rfl, rfl⟩ := Prod.mk.inj heq
      exact .inl ⟨last, before, hd, hlast, rfl⟩
    next hd =>
      split at h
      · cases h
      · cases h
      next c' hroot hleading =>
        obtain ⟨rfl, rfl⟩ := Prod.mk.inj (Option.some.inj h)
        exact .inr ⟨hd, hleading, hroot, rfl⟩

theorem components_of_split? (h : split? p = some (dir, c)) : components p = components dir ++ [c] ∧ c ≠ .root := by
  obtain ⟨first, rest, hs, ⟨last, before, hd, hlast, rfl⟩ | ⟨hd, hleading, hroot, rfl⟩⟩ := split?_cases h
  · have hp : p ≠ [] := by
      rintro rfl
      obtain ⟨rfl, rfl⟩ := List.cons.inj hs
      cases hd
    have hrest : rest.filterMap ofSegment = before.reverse.filterMap ofSegment ++ [c] := by
      rw [← filterMap_reverse_dropWhile rest, hd]
      simp [List.filterMap_append, hlast]
    have hsub : (before.dropWhile isSilent).reverse ⊆ rest := fun t ht => by
      have hbefore : t ∈ before := (List.dropWhile_sublist isSilent).subset (List.mem_reverse.1 ht)
      have hmem : t ∈ rest.reverse.dropWhile isSilent := hd ▸ List.mem_cons_of_mem last hbefore
      exact List.mem_reverse.1 ((List.dropWhile_sublist isSilent).subset hmem)
    have hslash : ∀ t ∈ first :: (before.dropWhile isSilent).reverse, slash ∉ t := fun t ht =>
      not_mem_segments (hs ▸ List.cons_subset_cons first hsub ht)
    rw [components_eq hp hs, components_ofSegments hslash, hrest, ← filterMap_reverse_dropWhile before.reverse,
      List.reverse_reverse, List.append_assoc]
    exact ⟨rfl, fun hc => ofSegment_ne_root (hc ▸ hlast)⟩
  · have hrest : rest.filterMap ofSegment = [] := by
      rw [← filterMap_reverse_dropWhile rest, hd]
      rfl
    have hp : components p = [c] := by simp [components, hs, hleading, hrest]
    exact ⟨hp, hroot⟩

theorem split?_eq_none_iff : split? p = none ↔ components p = [] ∨ components p = [.root] := by
  constructor
  · intro h
    cases hs : segments p with
    | nil => exact absurd hs (splitWhere_ne_nil _ _)
    | cons first rest =>
      simp only [split?, hs] at h
      split at h
      next last before hd =>
        have hspoken := List.head?_dropWhile_not isSilent rest.reverse
        simp [hd, ofSegment_eq_none_iff.1 (Option.map_eq_none_iff.1 h)] at hspoken
      next hd =>
        have hrest : rest.filterMap ofSegment = [] := by
          rw [← filterMap_reverse_dropWhile rest, hd]
          rfl
        simp only [components, hs, hrest, List.append_nil]
        split at h
        next hleading => simp [hleading]
        next hleading => simp [hleading]
        · cases h
  · intro h
    cases hsplit : split? p with
    | none => rfl
    | some split =>
      obtain ⟨dir, c⟩ := split
      obtain ⟨hp, hc⟩ := components_of_split? hsplit
      rw [hp] at h
      rcases h with h | h
      · simp at h
      · -- A single component is the one split off, and that is never the root.
        cases hdir : components dir <;> simp_all

end Split

section Names

theorem isName_of_ofSegment (hs : slash ∉ s) (h : ofSegment s = some (.name n)) : IsName n := by
  rcases segment_cases hs with hsilent | rfl | hname
  · simp [ofSegment_of_isSilent hsilent] at h
  · simp at h
  · rw [ofSegment_of_isName hname] at h
    cases h
    exact hname

theorem isName_of_mem_components (h : .name n ∈ components p) : IsName n := by
  cases hs : segments p with
  | nil => exact absurd hs (splitWhere_ne_nil _ _)
  | cons first rest =>
    simp only [components, hs, List.mem_append, Option.mem_toList, List.mem_filterMap] at h
    rcases h with hleading | ⟨s, hmem, hs'⟩
    · have hfirst : ofSegment first = some (.name n) := by
        unfold leading at hleading
        split at hleading
        · cases hleading
        · split at hleading
          · cases hleading
          · exact hleading
      exact isName_of_ofSegment (not_mem_segments (hs ▸ List.mem_cons_self)) hfirst
    · exact isName_of_ofSegment (not_mem_segments (hs ▸ List.mem_cons_of_mem first hmem)) hs'

theorem segments_join (hd : dir ≠ []) (hn : IsName n) :
    ∃ first rest, segments (join dir n) = first :: (rest ++ [n]) ∧
      components dir = (leading dir first).toList ++ rest.filterMap ofSegment := by
  have hsegment : segments n = [n] := Move.segments_of_isName hn
  unfold join
  simp only [Move.isAbsolute_of_isName hn, beq_false_of_ne hd, Bool.or_self, Bool.false_eq_true, if_false]
  split
  next hlast =>
    obtain ⟨front, rfl⟩ := List.getLast?_eq_some_iff.1 (eq_of_beq hlast)
    cases hs : segments front with
    | nil => exact absurd hs (splitWhere_ne_nil _ _)
    | cons first rest =>
      have hdir : segments (front ++ [slash]) = first :: (rest ++ [[]]) := by
        rw [segments, splitWhere_append_cons _ _ _ _ (by simp), ← segments, hs]
        rfl
      refine ⟨first, rest, ?_, ?_⟩
      · rw [List.append_assoc, List.singleton_append, segments, splitWhere_append_cons _ _ _ _ (by simp), ← segments,
          ← segments, hs, hsegment]
        rfl
      · simp [components, hdir, ofSegment_of_isSilent (s := []) rfl]
  next =>
    cases hs : segments dir with
    | nil => exact absurd hs (splitWhere_ne_nil _ _)
    | cons first rest =>
      refine ⟨first, rest, ?_, by simp [components, hs]⟩
      rw [segments, splitWhere_append_cons _ _ _ _ (by simp), ← segments, ← segments, hs, hsegment]
      rfl

theorem components_join (hd : dir ≠ []) (hn : IsName n) : components (join dir n) = components dir ++ [.name n] := by
  obtain ⟨first, rest, hs, hdir⟩ := segments_join hd hn
  have hleading : leading (join dir n) first = leading dir first := by
    simp only [leading, Tree.isAbsolute_join hd hn]
  rw [hdir]
  simp [components, hs, hleading, ofSegment_of_isName hn]

end Names

end Slipway.Path
