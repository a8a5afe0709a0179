import Slipway.Path.Absolute
import Slipway.Proofs.Machine.Join
set_option autoImplicit false

/-!
Lexical resolution as a walk over segments: an empty segment or a dot stays, two dots go up as long as there is
something to go up from, and any other segment is a name that is kept byte for byte (`Path.lexical`).  Resolution by
components comes to the same bytes (`Path.absolute_eq_lexical`).  They are in normal form (`Path.isNormal_lexical`), and
what has been resolved resolves to itself wherever one starts (`Path.absolute_lexical`).
-/

namespace Slipway

theorem splitWhere_joinWith {α : Type} [BEq α] [LawfulBEq α] {x : α} {pieces : List (List α)} (hne : pieces ≠ [])
    (h : ∀ p ∈ pieces, x ∉ p) : splitWhere (· == x) (joinWith [x] pieces) = pieces := by
  have hpiece {p : List α} (hp : p ∈ pieces) : splitWhere (· == x) p = [p] :=
    splitWhere_eq_singleton fun y hy => beq_false_of_ne fun hyx => h p hp (hyx ▸ hy)
  induction pieces with
  | nil => exact absurd rfl hne
  | cons p rest ih =>
    cases rest with
    | nil => exact hpiece List.mem_cons_self
    | cons q rest =>
      have hrest := ih (by simp) (fun r hr => h r (List.mem_cons_of_mem p hr)) fun hr => hpiece (List.mem_cons_of_mem p hr)
      rw [joinWith, List.append_assoc, List.singleton_append, splitWhere_append_cons _ _ _ _ (by simp), hrest,
        hpiece List.mem_cons_self, List.singleton_append]

namespace Path

def ofNames (names : List Bytes) : Bytes := slash :: joinWith [slash] names

def follow (names : List Bytes) (segment : Bytes) : List Bytes :=
  if isSilent segment then names else if segment == dotDot then names.dropLast else names ++ [segment]

/-- The names that a path leads through; a relative one has those of its start before it. -/
def namesFrom (start : List Bytes) (p : Bytes) : List Bytes :=
  (segments p).foldl follow (if isAbsolute p then [] else start)

def lexical (base p : Bytes) : Bytes := ofNames (namesFrom (namesFrom [] base) p)

structure IsNormal (p : Bytes) : Prop where
  absolute : isAbsolute p = true
  named : p ≠ [slash] → ∀ s ∈ (segments p).tail, s ≠ [] ∧ s ≠ dot ∧ s ≠ dotDot
  noTrailingSlash : p ≠ [slash] → p.getLast? ≠ some slash

example : lexical (utf8 "/w//x/".toList) (utf8 "../a/./b/..//c".toList) = utf8 "/w/a/c".toList := by decide
example : lexical (utf8 "/w".toList) (utf8 "/../a/..".toList) = utf8 "/".toList := by decide

def rooted (names : List Bytes) : List Component := .root :: names.map .name

theorem ofComponents_rooted (names : List Bytes) : ofComponents (rooted names) = ofNames names := by
  have hbytes : (names.map Component.name).map Component.bytes = names := by
    rw [List.map_map]
    exact List.map_id names
  cases names with
  | nil => rfl
  | cons n names => simp only [rooted, List.map_cons, ofComponents, ofNames] at hbytes ⊢; rw [hbytes]

theorem not_mem_segments {p s : Bytes} (h : s ∈ segments p) : slash ∉ s := fun hs => by
  have hsep := not_sep_of_mem_splitWhere (· == slash) p s h slash hs
  simp at hsep

theorem segments_of_isAbsolute {p : Bytes} (h : isAbsolute p = true) : ∃ rest, segments p = [] :: rest := by
  cases p with
  | nil => cases h
  | cons b p =>
    obtain rfl : b = slash := by simpa [isAbsolute] using h
    exact ⟨segments p, by simp [segments, splitWhere]⟩

theorem components_of_isAbsolute {p : Bytes} {rest : List Bytes} (h : isAbsolute p = true)
    (hs : segments p = [] :: rest) : components p = .root :: rest.filterMap ofSegment := by
  simp [components, hs, leading, h]

section Names

variable {names : List Bytes}

theorem segments_ofNames (hne : names ≠ []) (h : ∀ n ∈ names, slash ∉ n) : segments (ofNames names) = [] :: names := by
  have hsplit := splitWhere_joinWith hne h
  simp [segments, ofNames, splitWhere, hsplit]

theorem components_ofNames (h : ∀ n ∈ names, slash ∉ n) :
    components (ofNames names) = .root :: names.filterMap ofSegment := by
  cases names with
  | nil => rfl
  | cons n names => exact components_of_isAbsolute rfl (segments_ofNames (by simp) h)

theorem ofSegments_eq (names : List Bytes) : ofSegments ([] :: names) = ofNames names := by
  cases names <;> rfl

theorem follow_of_isSilent {s : Bytes} (h : isSilent s = true) : follow names s = names := if_pos h

theorem follow_of_isName {s : Bytes} (h : IsName s) : follow names s = names ++ [s] := by
  simp [follow, isSilent, h.nonempty, h.notDot, h.notDotDot]

@[simp] theorem follow_dotDot (names : List Bytes) : follow names dotDot = names.dropLast := rfl

@[simp] theorem ofSegment_dotDot : ofSegment dotDot = some .up := rfl

theorem IsName.not_isSilent {s : Bytes} (h : IsName s) : isSilent s = false := by
  simp [isSilent, h.nonempty, h.notDot]

theorem segment_cases {s : Bytes} (h : slash ∉ s) : isSilent s = true ∨ s = dotDot ∨ IsName s := by
  by_cases hs : isSilent s = true
  · exact .inl hs
  · by_cases hd : s = dotDot
    · exact .inr (.inl hd)
    · obtain ⟨hnil, hdot⟩ : s ≠ [] ∧ s ≠ dot := by simpa [isSilent] using hs
      exact .inr (.inr ⟨hnil, h, hdot, hd⟩)

theorem ofSegment_of_isSilent {s : Bytes} (h : isSilent s = true) : ofSegment s = none := if_pos h

theorem ofSegment_of_isName {s : Bytes} (h : IsName s) : ofSegment s = some (.name s) := by
  simp [ofSegment, isSilent, h.nonempty, h.notDot, h.notDotDot]

theorem foldl_step_rooted (segs : List Bytes) (hs : ∀ s ∈ segs, slash ∉ s) (names : List Bytes) :
    (segs.filterMap ofSegment).foldl step (rooted names) = rooted (segs.foldl follow names) := by
  induction segs generalizing names with
  | nil => rfl
  | cons s segs ih =>
    have hrest := ih fun t ht => hs t (List.mem_cons_of_mem s ht)
    rw [List.foldl_cons]
    rcases segment_cases (hs s List.mem_cons_self) with hsilent | rfl | hname
    · rw [List.filterMap_cons_none (ofSegment_of_isSilent hsilent), follow_of_isSilent hsilent, hrest]
    · have hup : step (rooted names) .up = rooted names.dropLast := by
        cases names with
        | nil => rfl
        | cons n names =>
          rw [rooted, rooted, List.map_dropLast]
          rfl
      rw [List.filterMap_cons_some ofSegment_dotDot, List.foldl_cons, hup, follow_dotDot, hrest]
    · have hstep : step (rooted names) (.name s) = rooted (names ++ [s]) := by simp [step, rooted]
      rw [List.filterMap_cons_some (ofSegment_of_isName hname), List.foldl_cons, hstep, follow_of_isName hname, hrest]

theorem isName_of_mem_foldl_follow (segs : List Bytes) (hs : ∀ s ∈ segs, slash ∉ s) (hn : ∀ n ∈ names, IsName n) :
    ∀ n ∈ segs.foldl follow names, IsName n := by
  induction segs generalizing names with
  | nil => exact hn
  | cons s segs ih =>
    refine ih (fun t ht => hs t (List.mem_cons_of_mem s ht)) ?_
    rcases segment_cases (hs s List.mem_cons_self) with hsilent | rfl | hname
    · rwa [follow_of_isSilent hsilent]
    · exact fun n hmem => hn n (List.dropLast_subset names hmem)
    · rw [follow_of_isName hname]
      exact fun n hmem => (List.mem_append.1 hmem).elim (hn n) fun h => List.mem_singleton.1 h ▸ hname

theorem isName_of_mem_namesFrom {start : List Bytes} {p n : Bytes} (hs : ∀ n ∈ start, IsName n)
    (hn : n ∈ namesFrom start p) : IsName n := by
  refine isName_of_mem_foldl_follow _ (fun s hs => not_mem_segments hs) ?_ n hn
  split
  · simp
  · exact hs

theorem foldl_follow_of_isName (segs : List Bytes) (hs : ∀ s ∈ segs, IsName s) :
    segs.foldl follow names = names ++ segs := by
  induction segs generalizing names with
  | nil => rw [List.foldl_nil, List.append_nil]
  | cons s segs ih =>
    rw [List.foldl_cons, follow_of_isName (hs s List.mem_cons_self), ih fun t ht => hs t (List.mem_cons_of_mem s ht),
      List.append_assoc, List.singleton_append]

theorem namesFrom_ofNames (start : List Bytes) (h : ∀ n ∈ names, IsName n) : namesFrom start (ofNames names) = names := by
  have habsolute : isAbsolute (ofNames names) = true := rfl
  rw [namesFrom, if_pos habsolute]
  cases names with
  | nil => rfl
  | cons n names =>
    rw [segments_ofNames (by simp) fun n hn => (h n hn).noSlash, List.foldl_cons, follow_of_isSilent rfl,
      foldl_follow_of_isName _ h, List.nil_append]

theorem isNormal_ofNames (h : ∀ n ∈ names, IsName n) : IsNormal (ofNames names) := by
  cases names with
  | nil => exact ⟨rfl, fun hne => absurd rfl hne, fun hne => absurd rfl hne⟩
  | cons n names =>
    have hsegments := segments_ofNames (by simp) fun n hn => (h n hn).noSlash
    refine ⟨rfl, fun _ s hs => ?_, fun _ hlast => ?_⟩
    · rw [hsegments] at hs
      have hname := h s hs
      exact ⟨hname.nonempty, hname.notDot, hname.notDotDot⟩
    · -- A slash at the end would leave an empty segment behind it.
      obtain ⟨front, hfront⟩ := List.getLast?_eq_some_iff.1 hlast
      have hsplit : segments (front ++ [slash]) = segments front ++ [[]] := by
        rw [segments, splitWhere_append_cons _ _ _ _ (by simp)]
        rfl
      rw [← hfront, hsegments] at hsplit
      have hmem : [] ∈ n :: names := by
        cases hs : segments front with
        | nil => exact absurd hs (splitWhere_ne_nil _ _)
        | cons s more =>
          rw [hs] at hsplit
          exact (List.cons.inj hsplit).2 ▸ by simp
      exact (h [] hmem).nonempty rfl

theorem split?_ofNames {n : Bytes} (h : ∀ m ∈ names ++ [n], IsName m) :
    split? (ofNames (names ++ [n])) = some (ofNames names, .name n) := by
  have hn : IsName n := h n (by simp)
  have hspoken : names.reverse.dropWhile isSilent = names.reverse := by
    cases hr : names.reverse with
    | nil => rfl
    | cons last before =>
      have hlast : last ∈ names := List.mem_reverse.1 (hr ▸ List.mem_cons_self)
      exact List.dropWhile_cons_of_neg (by simp [(h last (by simp [hlast])).not_isSilent])
  rw [split?, segments_ofNames (by simp) fun m hm => (h m hm).noSlash]
  dsimp only
  rw [List.reverse_append, List.reverse_singleton, List.singleton_append,
    List.dropWhile_cons_of_neg (by simp [hn.not_isSilent])]
  simp only [hspoken, List.reverse_reverse, ofSegment_of_isName hn, ofSegments_eq, Option.map_some]

end Names

theorem isName_of_mem_lexicalNames {base p n : Bytes} (hn : n ∈ namesFrom (namesFrom [] base) p) : IsName n :=
  isName_of_mem_namesFrom (fun _ hm => isName_of_mem_namesFrom (by simp) hm) hn

theorem isNormal_lexical (base p : Bytes) : IsNormal (lexical base p) :=
  isNormal_ofNames fun _ hn => isName_of_mem_lexicalNames hn

section Absolute

variable {base p : Bytes}

theorem absolute_of_isAbsolute (base : Bytes) (h : isAbsolute p = true) (start : List Bytes) :
    absolute base p = ofNames (namesFrom start p) := by
  obtain ⟨rest, hs⟩ := segments_of_isAbsolute h
  have hrest : ∀ s ∈ rest, slash ∉ s := fun s hmem => not_mem_segments (hs ▸ List.mem_cons_of_mem [] hmem)
  have hfold := foldl_step_rooted rest hrest []
  rw [absolute, components_of_isAbsolute h hs, namesFrom, if_pos h, hs, List.foldl_cons, follow_of_isSilent rfl,
    ← ofComponents_rooted, ← hfold]
  rfl

theorem absolute_ofNames (base : Bytes) {names : List Bytes} (h : ∀ n ∈ names, IsName n) :
    absolute base (ofNames names) = ofNames names := by
  rw [absolute_of_isAbsolute base rfl [], namesFrom_ofNames [] h]

theorem absolute_lexical (base start p : Bytes) : absolute base (lexical start p) = lexical start p :=
  absolute_ofNames base fun _ hn => isName_of_mem_lexicalNames hn

end Absolute

section Below

/-- The segments that are names, when none goes up. -/
def spoken (segs : List Bytes) : List Bytes := segs.filter fun s => !isSilent s

@[simp] theorem spoken_append (segs segs' : List Bytes) : spoken (segs ++ segs') = spoken segs ++ spoken segs' :=
  List.filter_append ..

theorem spoken_cons_of_isSilent {s : Bytes} (segs : List Bytes) (h : isSilent s = true) :
    spoken (s :: segs) = spoken segs := by simp [spoken, h]

theorem spoken_cons_of_not_isSilent {s : Bytes} (segs : List Bytes) (h : isSilent s = false) :
    spoken (s :: segs) = s :: spoken segs := by simp [spoken, h]

theorem spoken_reverse_dropWhile (segs : List Bytes) :
    spoken (segs.dropWhile isSilent).reverse = spoken segs.reverse := by
  induction segs with
  | nil => rfl
  | cons s segs ih =>
    by_cases hs : isSilent s = true
    · rw [List.dropWhile_cons_of_pos hs, ih, List.reverse_cons, spoken_append, spoken_cons_of_isSilent [] hs]
      exact (List.append_nil _).symm
    · rw [List.dropWhile_cons_of_neg hs]

variable {base : Bytes} {segs names : List Bytes}

theorem filterMap_ofSegment_of_not_up (hs : ∀ s ∈ segs, slash ∉ s) (hup : dotDot ∉ segs) :
    segs.filterMap ofSegment = (spoken segs).map .name := by
  induction segs with
  | nil => rfl
  | cons s segs ih =>
    obtain ⟨hne, hrest⟩ := not_or.1 (mt List.mem_cons.2 hup)
    have hrest := ih (fun t ht => hs t (List.mem_cons_of_mem s ht)) hrest
    rcases segment_cases (hs s List.mem_cons_self) with hsilent | rfl | hname
    · rw [List.filterMap_cons_none (ofSegment_of_isSilent hsilent), spoken_cons_of_isSilent segs hsilent, hrest]
    · exact absurd rfl hne
    · rw [List.filterMap_cons_some (ofSegment_of_isName hname), spoken_cons_of_not_isSilent segs hname.not_isSilent,
        List.map_cons, hrest]

theorem foldl_follow_of_not_up (hs : ∀ s ∈ segs, slash ∉ s) (hup : dotDot ∉ segs) :
    segs.foldl follow names = names ++ spoken segs := by
  induction segs generalizing names with
  | nil => exact (List.append_nil names).symm
  | cons s segs ih =>
    obtain ⟨hne, hrest⟩ := not_or.1 (mt List.mem_cons.2 hup)
    rw [List.foldl_cons, ih (fun t ht => hs t (List.mem_cons_of_mem s ht)) hrest]
    rcases segment_cases (hs s List.mem_cons_self) with hsilent | rfl | hname
    · rw [follow_of_isSilent hsilent, spoken_cons_of_isSilent segs hsilent]
    · exact absurd rfl hne
    · rw [follow_of_isName hname, spoken_cons_of_not_isSilent segs hname.not_isSilent, List.append_assoc,
        List.singleton_append]

end Below

section Relative

/-- Where a relative path may count from: an absolute path that does not go up. -/
structure IsBase (base : Bytes) : Prop where
  absolute : isAbsolute base = true
  notUp : dotDot ∉ segments base

variable {base p : Bytes}

theorem IsBase.exists_rest (h : IsBase base) :
    ∃ rest, segments base = [] :: rest ∧ (∀ s ∈ rest, slash ∉ s) ∧ dotDot ∉ rest := by
  obtain ⟨rest, hs⟩ := segments_of_isAbsolute h.absolute
  exact ⟨rest, hs, fun s hmem => not_mem_segments (hs ▸ List.mem_cons_of_mem [] hmem),
    fun hmem => h.notUp (hs ▸ List.mem_cons_of_mem [] hmem)⟩

theorem IsBase.namesFrom_eq (h : IsBase base) {rest : List Bytes} (hs : segments base = [] :: rest) :
    namesFrom [] base = spoken rest := by
  obtain ⟨rest', hs', hrest, hnot⟩ := h.exists_rest
  obtain rfl : rest = rest' := (List.cons.inj (hs.symm.trans hs')).2
  rw [namesFrom, if_pos h.absolute, hs, List.foldl_cons, follow_of_isSilent rfl, foldl_follow_of_not_up hrest hnot,
    List.nil_append]

theorem IsBase.components_eq (h : IsBase base) : components base = rooted (namesFrom [] base) := by
  obtain ⟨rest, hs, hrest, hnot⟩ := h.exists_rest
  rw [components_of_isAbsolute h.absolute hs, filterMap_ofSegment_of_not_up hrest hnot, h.namesFrom_eq hs, rooted]

theorem IsBase.origin_up (h : IsBase base) : origin base .up = rooted (namesFrom [] base).dropLast := by
  obtain ⟨rest, hs, hrest, hnot⟩ := h.exists_rest
  have hspoken := spoken_reverse_dropWhile rest.reverse
  rw [List.reverse_reverse] at hspoken
  rw [h.namesFrom_eq hs, ← hspoken]
  simp only [origin, parent?, split?, hs]
  cases hd : rest.reverse.dropWhile isSilent with
  | nil => simp [leading, h.absolute, rooted, spoken]
  | cons last before =>
    have hmem : ∀ s ∈ last :: before, s ∈ rest := fun s hmem =>
      List.mem_reverse.1 ((List.dropWhile_sublist isSilent).subset (hd ▸ hmem))
    have hlast : isSilent last = false := by simpa [hd] using List.head?_dropWhile_not isSilent rest.reverse
    have hname : IsName last :=
      (segment_cases (hrest last (hmem last List.mem_cons_self))).resolve_left (by simp [hlast])
        |>.resolve_left fun hup => hnot (hup ▸ hmem last List.mem_cons_self)
    have hfront : ∀ s ∈ (before.dropWhile isSilent).reverse, s ∈ rest := fun s hs =>
      hmem s (List.mem_cons_of_mem last ((List.dropWhile_sublist isSilent).subset (List.mem_reverse.1 hs)))
    simp only [ofSegment_of_isName hname, Option.map_some, ofSegments_eq]
    rw [components_ofNames fun s hs => hrest s (hfront s hs),
      filterMap_ofSegment_of_not_up (fun s hs => hrest s (hfront s hs)) (fun hs => hnot (hfront _ hs)),
      spoken_reverse_dropWhile, List.reverse_cons, spoken_append, spoken_cons_of_not_isSilent [] hlast]
    simp [spoken, rooted]

theorem head_segments_ne_nil {s : Bytes} {rest : List Bytes} (hp : isAbsolute p = false) (hne : p ≠ [])
    (hs : segments p = s :: rest) : s ≠ [] := by
  rintro rfl
  cases p with
  | nil => exact hne rfl
  | cons b p =>
    have hb : b ≠ slash := by simpa [isAbsolute] using hp
    unfold segments splitWhere at hs
    rw [if_neg (by simpa using hb)] at hs
    split at hs <;> cases hs

theorem IsBase.origin_leading (h : IsBase base) {s : Bytes} (hp : isAbsolute p = false) (hs : slash ∉ s)
    (hne : s ≠ []) : ∃ c, leading p s = some c ∧ origin base c = rooted (follow (namesFrom [] base) s) := by
  have hleading : leading p s = if s == dot then some .here else ofSegment s := by simp [leading, hp]
  rw [hleading]
  rcases segment_cases hs with hsilent | rfl | hname
  · have hdot : s = dot := by simpa [isSilent, hne] using hsilent
    refine ⟨.here, if_pos (by simp [hdot]), ?_⟩
    rw [follow_of_isSilent hsilent]
    exact h.components_eq
  · exact ⟨.up, rfl, h.origin_up⟩
  · refine ⟨.name s, ?_, ?_⟩
    · rw [if_neg (by simpa using hname.notDot), ofSegment_of_isName hname]
    · rw [follow_of_isName hname, origin, h.components_eq]
      simp [rooted]

theorem absolute_of_relative (h : IsBase base) (hp : isAbsolute p = false) (hne : p ≠ []) :
    absolute base p = lexical base p := by
  cases hs : segments p with
  | nil => exact absurd hs (splitWhere_ne_nil _ _)
  | cons s rest =>
    have hrest : ∀ t ∈ rest, slash ∉ t := fun t ht => not_mem_segments (hs ▸ List.mem_cons_of_mem s ht)
    obtain ⟨c, hc, horigin⟩ := h.origin_leading hp (not_mem_segments (hs ▸ List.mem_cons_self))
      (head_segments_ne_nil hp hne hs)
    have hcomponents : components p = c :: rest.filterMap ofSegment := by simp [components, hs, hc]
    rw [absolute, hcomponents, lexical, namesFrom, if_neg (by simp [hp]), hs, List.foldl_cons, ← ofComponents_rooted,
      ← foldl_step_rooted rest hrest, ← horigin]

theorem absolute_eq_lexical (h : IsBase base) (hne : p ≠ []) : absolute base p = lexical base p := by
  cases hp : isAbsolute p with
  | true => exact absolute_of_isAbsolute base hp _
  | false => exact absolute_of_relative h hp hne

end Relative

end Path

end Slipway
