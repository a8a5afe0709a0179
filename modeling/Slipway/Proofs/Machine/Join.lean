import Slipway.Proofs.Machine.Walk
set_option autoImplicit false

namespace Slipway

theorem splitWhere_eq_singleton {α : Type} {sep : α → Bool} {xs : List α} (h : ∀ x ∈ xs, sep x = false) :
    splitWhere sep xs = [xs] := by
  induction xs with
  | nil => rfl
  | cons x xs ih =>
    have hx : sep x = false := h x (by simp)
    rw [splitWhere, ih fun y hy => h y (by simp [hy])]
    simp [hx]

structure Path.IsName (n : Bytes) : Prop where
  nonempty : n ≠ []
  noSlash : Path.slash ∉ n
  notDot : n ≠ Path.dot
  notDotDot : n ≠ Path.dotDot

theorem Path.ne_nil_of_isAbsolute {p : Bytes} (h : Path.isAbsolute p = true) : p ≠ [] := by
  rintro rfl
  cases h

namespace Move

variable {root n : Bytes}

theorem segments_of_isName (hn : Path.IsName n) : Path.segments n = [n] :=
  splitWhere_eq_singleton fun _ hx => beq_false_of_ne fun h => hn.noSlash (h ▸ hx)

theorem ofSegment_of_isName (hn : Path.IsName n) : ofSegment n = some (.into n) := by
  simp [ofSegment, hn.nonempty, hn.notDot, hn.notDotDot]

theorem isAbsolute_of_isName (hn : Path.IsName n) : Path.isAbsolute n = false := by
  cases n with
  | nil => rfl
  | cons b n =>
    have hb : b ≠ Path.slash := fun h => hn.noSlash (by simp [h])
    simp [Path.isAbsolute, hb]

theorem exists_stem (hr : root ≠ []) : ∃ stem, ∀ n, Path.IsName n → Path.join root n = stem ++ n := by
  refine ⟨if root.getLast? == some Path.slash then root else root ++ [Path.slash], fun n hn => ?_⟩
  unfold Path.join
  simp only [isAbsolute_of_isName hn, beq_false_of_ne hr, Bool.or_self, Bool.false_eq_true, if_false]
  split <;> simp

/-- A slash at the end leaves an empty segment behind, and that asks for no move. -/
theorem filterMap_segments_slash (front : Bytes) :
    (Path.segments (front ++ [Path.slash])).filterMap ofSegment = (Path.segments front).filterMap ofSegment := by
  unfold Path.segments
  rw [splitWhere_append_cons _ _ _ _ (by simp)]
  simp [splitWhere, ofSegment]

theorem filterMap_segments_join (hr : root ≠ []) (hn : Path.IsName n) :
    (Path.segments (Path.join root n)).filterMap ofSegment =
      (Path.segments root).filterMap ofSegment ++ [.into n] := by
  have hlast : (Path.segments n).filterMap ofSegment = [.into n] := by
    simp [segments_of_isName hn, ofSegment_of_isName hn]
  unfold Path.join
  simp only [isAbsolute_of_isName hn, beq_false_of_ne hr, Bool.or_self, Bool.false_eq_true, if_false]
  split
  case isTrue h =>
    obtain ⟨front, rfl⟩ := List.getLast?_eq_some_iff.1 (eq_of_beq h)
    rw [filterMap_segments_slash, List.append_assoc, List.singleton_append, Path.segments,
      splitWhere_append_cons _ _ _ _ (by simp), List.filterMap_append]
    exact congrArg _ hlast
  case isFalse =>
    rw [Path.segments, splitWhere_append_cons _ _ _ _ (by simp), List.filterMap_append]
    exact congrArg _ hlast

theorem getLast?_join (hn : Path.IsName n) : (Path.join root n).getLast? = n.getLast? := by
  obtain ⟨b, hb⟩ := List.getLast?_isSome.2 hn.nonempty |> Option.isSome_iff_exists.1
  unfold Path.join
  split
  · rfl
  · split
    · simp [List.getLast?_append, hb]
    · simp [List.getLast?_append, List.getLast?_cons, hb]

theorem getLast?_ne_slash (hn : Path.IsName n) : n.getLast? ≠ some Path.slash := fun h =>
  hn.noSlash (List.mem_of_getLast? h)

theorem ofPath_join (hr : root ≠ []) (hn : Path.IsName n) :
    ofPath (Path.join root n) = (Path.segments root).filterMap ofSegment ++ [.into n] := by
  rw [ofPath, getLast?_join hn, if_neg (getLast?_ne_slash hn), filterMap_segments_join hr hn, List.append_nil]

end Move

namespace Tree

variable {t : Tree} {how : Manner} {onLink : Place → Bytes → List Move → Except OsError Spot} {p q : Place}
  {root n : Bytes} {moves more : List Move} {links : Nat} {follow : Bool}

theorem walkWith_stay (hm : more ≠ [])
    (hlink : ∀ p target rest, onLink p target (rest ++ .stay :: more) = onLink p target (rest ++ more)) :
    walkWith t how onLink p (moves ++ .stay :: more) = walkWith t how onLink p (moves ++ more) := by
  induction moves generalizing p with
  | nil => rfl
  | cons move rest ih =>
    cases move with
    | stay => exact ih
    | up => exact ih
    | into n =>
      have hne : ¬ rest ++ more = [] := by simp [hm]
      have hne' : ¬ rest ++ .stay :: more = [] := by simp
      simp only [List.cons_append, walkWith, hne, hne', if_false, ih, hlink]

theorem Proper.join_of_length_le {n' : Bytes} (h : Proper (Path.join root n)) (hr : root ≠ []) (hn : Path.IsName n)
    (hn' : Path.IsName n') (hclean : 0 ∉ n') (hl : n'.length ≤ n.length) : Proper (Path.join root n') := by
  obtain ⟨stem, hstem⟩ := Move.exists_stem hr
  have hp := h
  rw [hstem n hn] at hp
  rw [hstem n' hn']
  have hshort := hp.short
  refine ⟨?_, by simp [hn'.nonempty], ?_⟩
  · have hc := hp.clean
    simp only [List.mem_append, not_or] at hc ⊢
    exact ⟨hc.1, hclean⟩
  · simp only [List.length_append] at hshort ⊢
    omega

theorem Proper.of_join (h : Proper (Path.join root n)) (hr : root ≠ []) (hn : Path.isAbsolute n = false) :
    Proper root := by
  have hpre : root <+: Path.join root n := by
    unfold Path.join
    simp only [hn, beq_false_of_ne hr, Bool.or_self, Bool.false_eq_true, if_false]
    split <;> exact List.prefix_append ..
  exact ⟨fun h0 => h.clean (hpre.subset h0), hr, Nat.le_trans hpre.length_le h.short⟩

theorem walk_stay (hm : more ≠ []) :
    t.walk how links p (moves ++ .stay :: more) = t.walk how links p (moves ++ more) := by
  induction links generalizing p moves with
  | zero =>
    rw [walk]
    exact walkWith_stay hm fun _ _ _ => rfl
  | succ links ih =>
    rw [walk]
    refine walkWith_stay hm fun p target rest => ?_
    simp only [← List.append_assoc]
    exact ih

theorem isAbsolute_join (hr : root ≠ []) (hn : Path.IsName n) :
    Path.isAbsolute (Path.join root n) = Path.isAbsolute root := by
  cases root with
  | nil => contradiction
  | cons b root =>
    unfold Path.join
    simp only [Move.isAbsolute_of_isName hn, beq_false_of_ne hr, Bool.or_self, Bool.false_eq_true, if_false]
    split <;> rfl

theorem origin_join (hr : root ≠ []) (hn : Path.IsName n) : origin p (Path.join root n) = origin p root := by
  simp [origin, isAbsolute_join hr hn]

theorem locate_join (hr : t.locate true p root = .ok (.dir q)) (hn : Path.IsName n)
    (hp : Proper (Path.join root n)) (follow : Bool) :
    ∃ links, t.locate follow p (Path.join root n) =
      (t.walk ⟨follow, fun _ => true⟩ links q [.into n]).mapError .os := by
  have hroot := (proper_of_locate hr).nonempty
  obtain ⟨links, hlinks⟩ := walk_append follow (List.cons_ne_nil (Move.into n) []) (walk_of_locate hr)
  refine ⟨links, ?_⟩
  rw [locate_eq hp, Move.ofPath_join hroot hn, origin_join hroot hn, ← hlinks, Move.ofPath]
  split
  · rw [List.append_assoc, List.singleton_append, walk_stay (List.cons_ne_nil _ _)]
  · rw [List.append_nil]

theorem walk_of_locate_join {s : Spot} (hr : t.locate true p root = .ok (.dir q)) (hn : Path.IsName n)
    (h : t.locate follow p (Path.join root n) = .ok s) :
    ∃ links, t.walk ⟨follow, fun _ => true⟩ links q [.into n] = .ok s := by
  obtain ⟨links, hlinks⟩ := locate_join hr hn (proper_of_locate h) follow
  rw [hlinks] at h
  exact ⟨links, eq_ok_of_mapError h⟩

theorem passes_of_walk {s : Spot} (h : t.walk how links p [.into n] = .ok s) : how.Passes p n := by
  cases links <;>
    · rw [walk] at h
      exact passes_of_walkWith h

theorem dir_or_link_of_walk (h : t.walk how links p [.into n] = .ok (.dir q)) :
    (t.node? (p.location ++ [n]) = some .dir ∧ q = p.down n) ∨
      ∃ target, t.node? (p.location ++ [n]) = some (.link target) := by
  cases links <;>
    · rw [walk] at h
      cases found_of_walkWith h with
      | dir hn hw => exact .inl ⟨hn, (Spot.dir.inj (Except.ok.inj hw)).symm⟩
      | lastLink target hn => exact .inr ⟨target, hn⟩
      | link target hn => exact .inr ⟨target, hn⟩
      | _ => contradiction

theorem walk_name_free (h : how.Passes p n) (hn : t.node? (p.location ++ [n]) = none) :
    t.walk how links p [.into n] = .ok (.free (p.location ++ [n])) := by
  cases links <;> rw [walk, walkWith_into h, hn] <;> rfl

theorem walk_name_taken {node : Node} (h : how.Passes p n) (hf : how.follow = false)
    (hn : t.node? (p.location ++ [n]) = some node) :
    ∃ s, t.walk how links p [.into n] = .ok s ∧ ∀ l, s ≠ .free l := by
  cases links <;>
    · rw [walk, walkWith_into h, hn]
      cases node <;> simp [walkWith, hf]

end Tree

end Slipway
