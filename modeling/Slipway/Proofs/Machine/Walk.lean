import Slipway.Machine.Tree
set_option autoImplicit false

namespace Slipway.Tree

variable {t : Tree} {how : Manner} {onLink onLink' : Place → Bytes → List Move → Except OsError Spot} {p q : Place}
  {n path : Bytes} {moves rest more : List Move} {s : Spot} {l : Location} {links : Nat} {follow : Bool}

/-- A walk gets as far as asking for a name in a directory. -/
structure Manner.Passes (how : Manner) (p : Place) (n : Bytes) : Prop where
  short : n.length ≤ nameLimit
  reached : how.reaches (p.location ++ [n]) = true
  standing : p.lost = 0

theorem walkWith_into (h : how.Passes p n) :
    walkWith t how onLink p (.into n :: rest) =
      match t.node? (p.location ++ [n]) with
      | none => if rest = [] then .ok (.free (p.location ++ [n])) else .error .noEntry
      | some .dir => walkWith t how onLink (p.down n) rest
      | some (.file executable data) =>
        if rest = [] then .ok (.file (p.location ++ [n]) executable data) else .error .notADirectory
      | some .device => if rest = [] then .ok (.device (p.location ++ [n])) else .error .notADirectory
      | some (.link target) =>
        if rest = [] && !how.follow then .ok (.link (p.location ++ [n]) target) else onLink p target rest := by
  have hshort : ¬ nameLimit < n.length := Nat.not_lt.2 h.short
  have hstanding : ¬ 0 < p.lost := by rw [h.standing]; exact Nat.lt_irrefl 0
  have hname : ¬ (decide (nameLimit < n.length) || !how.reaches (p.location ++ [n])) = true := by
    simp [hshort, h.reached]
  exact (if_neg hname).trans (if_neg hstanding)

theorem passes_of_walkWith (h : walkWith t how onLink p (.into n :: rest) = .ok s) : how.Passes p n := by
  unfold walkWith at h
  split at h
  · contradiction
  · rename_i hn
    split at h
    · contradiction
    · rename_i hl
      simp only [Bool.or_eq_true, decide_eq_true_eq, Bool.not_eq_true', not_or, Bool.not_eq_false] at hn
      exact ⟨Nat.not_lt.1 hn.1, hn.2, Nat.eq_zero_of_not_pos hl⟩

/-- What stands at a name through which, or to which, a walk has come. -/
inductive Found (t : Tree) (how : Manner) (onLink : Place → Bytes → List Move → Except OsError Spot) (p : Place)
    (n : Bytes) (rest : List Move) (s : Spot) : Prop
  | free (hn : t.node? (p.location ++ [n]) = none) (hr : rest = []) (hs : s = .free (p.location ++ [n]))
  | dir (hn : t.node? (p.location ++ [n]) = some .dir) (hw : walkWith t how onLink (p.down n) rest = .ok s)
  | file (executable : Bool) (data : Bytes) (hn : t.node? (p.location ++ [n]) = some (.file executable data))
    (hr : rest = []) (hs : s = .file (p.location ++ [n]) executable data)
  | device (hn : t.node? (p.location ++ [n]) = some .device) (hr : rest = []) (hs : s = .device (p.location ++ [n]))
  | lastLink (target : Bytes) (hn : t.node? (p.location ++ [n]) = some (.link target))
    (hr : (rest = [] && !how.follow) = true) (hs : s = .link (p.location ++ [n]) target)
  | link (target : Bytes) (hn : t.node? (p.location ++ [n]) = some (.link target))
    (hr : ¬ (rest = [] && !how.follow) = true) (hw : onLink p target rest = .ok s)

theorem found_of_walkWith (h : walkWith t how onLink p (.into n :: rest) = .ok s) :
    Found t how onLink p n rest s := by
  rw [walkWith_into (passes_of_walkWith h)] at h
  have last {s' : Spot} {e : OsError} (hs : (if rest = [] then .ok s' else .error e) = Except.ok s) :
      rest = [] ∧ s = s' := by
    split at hs
    case isTrue hr => exact ⟨hr, (Except.ok.inj hs).symm⟩
    case isFalse => contradiction
  cases hn : t.node? (p.location ++ [n]) with
  | none =>
    rw [hn] at h
    obtain ⟨hr, hs⟩ := last h
    exact .free hn hr hs
  | some node =>
    rw [hn] at h
    cases node with
    | dir => exact .dir hn h
    | file executable data =>
      obtain ⟨hr, hs⟩ := last h
      exact .file executable data hn hr hs
    | device =>
      obtain ⟨hr, hs⟩ := last h
      exact .device hn hr hs
    | link target =>
      dsimp only at h
      split at h
      case isTrue hr => exact .lastLink target hn hr (Except.ok.inj h).symm
      case isFalse hr => exact .link target hn hr h

/-- The step of `walk_append`: `P` is what is to hold of the longer walk, however its links are followed. -/
theorem walkWith_append {reaches : Location → Bool} {P : Except OsError Spot → Prop} (hm : more ≠ [])
    (hend : P (walkWith t ⟨follow, reaches⟩ onLink' q more))
    (hlink : ∀ p target rest, onLink p target rest = .ok (.dir q) → P (onLink' p target (rest ++ more)))
    (h : walkWith t ⟨true, reaches⟩ onLink p moves = .ok (.dir q)) :
    P (walkWith t ⟨follow, reaches⟩ onLink' p (moves ++ more)) := by
  induction moves generalizing p with
  | nil =>
    simp only [walkWith, Except.ok.injEq, Spot.dir.injEq] at h
    subst h
    exact hend
  | cons move rest ih =>
    cases move with
    | stay => exact ih h
    | up => exact ih h
    | into n =>
      have hp := passes_of_walkWith h
      have hp' : Manner.Passes ⟨follow, reaches⟩ p n := ⟨hp.short, hp.reached, hp.standing⟩
      rw [List.cons_append, walkWith_into hp']
      cases found_of_walkWith h with
      | dir hn hw => simpa [hn] using ih hw
      | link target hn hr hw => simpa [hn, hm] using hlink p target rest hw
      | _ => contradiction

/-- A walk that goes on behind a directory is a walk from there, with the links that are left.  Only at its very end
does it matter whether links are looked through. -/
theorem walk_append {reaches : Location → Bool} (follow : Bool) (hm : more ≠ [])
    (h : t.walk ⟨true, reaches⟩ links p moves = .ok (.dir q)) :
    ∃ left, t.walk ⟨follow, reaches⟩ links p (moves ++ more) = t.walk ⟨follow, reaches⟩ left q more := by
  let Goal (r : Except OsError Spot) : Prop := ∃ left, r = walk t ⟨follow, reaches⟩ left q more
  induction links generalizing p moves with
  | zero =>
    rw [walk] at h ⊢
    exact walkWith_append (P := Goal) hm ⟨0, rfl⟩ (fun _ _ _ hlink => by simp at hlink) h
  | succ links ih =>
    rw [walk] at h ⊢
    refine walkWith_append (P := Goal) hm ⟨links + 1, rfl⟩ (fun p' target rest hlink => ?_) h
    simp only [← List.append_assoc]
    exact ih hlink

theorem walkWith_free (hlink : ∀ p target rest, onLink p target rest = .ok (.free l) → t.node? l = none)
    (h : walkWith t how onLink p moves = .ok (.free l)) : t.node? l = none := by
  induction moves generalizing p with
  | nil => simp [walkWith] at h
  | cons move rest ih =>
    cases move with
    | stay => exact ih h
    | up => exact ih h
    | into n =>
      cases found_of_walkWith h with
      | free hn hr hs => rw [Spot.free.inj hs, hn]
      | dir hn hw => exact ih hw
      | link target hn hr hw => exact hlink p target rest hw
      | _ => contradiction

theorem walk_free (h : t.walk how links p moves = .ok (.free l)) : t.node? l = none := by
  induction links generalizing p moves with
  | zero =>
    rw [walk] at h
    exact walkWith_free (fun _ _ _ hlink => by simp at hlink) h
  | succ links ih =>
    rw [walk] at h
    exact walkWith_free (fun _ _ _ hlink => ih hlink) h

theorem ne_nil_of_node? (h : t.node? l = none) : l ≠ [] := by
  rintro rfl
  simp [node?] at h

theorem walkWith_taken (hs : ∀ l, s ≠ .free l)
    (hlink : ∀ p target rest, onLink p target (rest ++ [.into n]) = .ok s → ∃ l, t.node? (l ++ [n]) ≠ none)
    (h : walkWith t how onLink p (moves ++ [.into n]) = .ok s) :
    ∃ l, t.node? (l ++ [n]) ≠ none := by
  induction moves generalizing p with
  | nil =>
    refine ⟨p.location, fun hn => ?_⟩
    rw [List.nil_append, walkWith_into (passes_of_walkWith h), hn] at h
    exact hs _ (Except.ok.inj h).symm
  | cons move rest ih =>
    cases move with
    | stay => exact ih h
    | up => exact ih h
    | into k =>
      cases found_of_walkWith h with
      | dir hk hw => exact ih hw
      | link target hk hr hw => exact hlink p target rest hw
      | free hk hr => simp at hr
      | file executable data hk hr => simp at hr
      | device hk hr => simp at hr
      | lastLink target hk hr => simp at hr

theorem walk_taken (hs : ∀ l, s ≠ .free l) (h : t.walk how links p (moves ++ [.into n]) = .ok s) :
    ∃ l, t.node? (l ++ [n]) ≠ none := by
  induction links generalizing p moves with
  | zero =>
    rw [walk] at h
    exact walkWith_taken hs (fun _ _ _ hlink => by simp at hlink) h
  | succ links ih =>
    rw [walk] at h
    refine walkWith_taken hs (fun p target rest hlink => ?_) h
    rw [← List.append_assoc] at hlink
    exact ih hlink

theorem walkWith_insert_file {executable : Bool} {data : Bytes} (hl : t.node? l = none)
    (hlink : ∀ p target rest, onLink p target rest = .ok (.free l) →
      onLink' p target rest = .ok (.file l executable data))
    (h : walkWith t how onLink p moves = .ok (.free l)) :
    walkWith (t.insert l (.file executable data)) how onLink' p moves = .ok (.file l executable data) := by
  induction moves generalizing p with
  | nil => simp [walkWith] at h
  | cons move rest ih =>
    cases move with
    | stay => exact ih h
    | up => exact ih h
    | into n =>
      rw [walkWith_into (passes_of_walkWith h)]
      -- On its way the walk passes only what is there, so what it meets at another name is what it met before.
      have hother {node : Node} (hn : t.node? (p.location ++ [n]) = some node) :
          (t.insert l (.file executable data)).node? (p.location ++ [n]) = some node := by
        rw [node?_insert_of_ne, hn]
        rintro rfl
        simp [hl] at hn
      cases found_of_walkWith h with
      | free hn hr hs =>
        obtain rfl := Spot.free.inj hs
        simp [node?_insert_self t _ _ (ne_nil_of_node? hl) hl, hr]
      | dir hn hw => simpa [hother hn] using ih hw
      | link target hn hr hw => simpa [hother hn, hr] using hlink p target rest hw
      | _ => contradiction

theorem walk_insert_file {executable : Bool} {data : Bytes} (h : t.walk how links p moves = .ok (.free l)) :
    (t.insert l (.file executable data)).walk how links p moves = .ok (.file l executable data) := by
  have hl := walk_free h
  induction links generalizing p moves with
  | zero =>
    rw [walk] at h ⊢
    exact walkWith_insert_file hl (fun _ _ _ hlink => by simp at hlink) h
  | succ links ih =>
    rw [walk] at h ⊢
    exact walkWith_insert_file hl (fun _ _ _ hlink => ih hlink) h

structure Proper (path : Bytes) : Prop where
  clean : 0 ∉ path
  nonempty : path ≠ []
  short : path.length ≤ pathLimit

theorem locate_eq (h : Proper path) :
    t.locate follow p path =
      (t.walk ⟨follow, fun _ => true⟩ linkLimit (origin p path) (Move.ofPath path)).mapError .os := by
  have hclean : path.elem 0 = false := by simpa using h.clean
  simp only [locate, hclean, h.nonempty, Nat.not_lt.2 h.short, Bool.false_eq_true, if_false]

theorem proper_of_locate (h : t.locate follow p path = .ok s) : Proper path := by
  unfold locate at h
  split at h
  · contradiction
  · rename_i hclean
    split at h
    · contradiction
    · rename_i hne
      split at h
      · contradiction
      · rename_i hshort
        exact ⟨by simpa using hclean, hne, Nat.not_lt.1 hshort⟩

theorem eq_ok_of_mapError {ε ε' α : Type} {x : Except ε α} {f : ε → ε'} {a : α} (h : x.mapError f = .ok a) :
    x = .ok a := by
  cases x with
  | error e => cases h
  | ok b => exact congrArg Except.ok (Except.ok.inj h)

theorem walk_of_locate (h : t.locate follow p path = .ok s) :
    t.walk ⟨follow, fun _ => true⟩ linkLimit (origin p path) (Move.ofPath path) = .ok s := by
  rw [locate_eq (proper_of_locate h)] at h
  exact eq_ok_of_mapError h

theorem locate_of_isAbsolute (h : Path.isAbsolute path = true) : t.locate follow p path = t.locate follow q path := by
  have ho : origin p path = origin q path := by simp [origin, h]
  unfold locate
  rw [ho]

theorem locate_insert_file {executable : Bool} {data : Bytes} (h : t.locate follow p path = .ok (.free l)) :
    (t.insert l (.file executable data)).locate follow p path = .ok (.file l executable data) := by
  rw [locate_eq (proper_of_locate h), walk_insert_file (walk_of_locate h)]
  rfl

end Slipway.Tree
