import Slipway.Proofs.DotEnv.Additions
set_option autoImplicit false

namespace Slipway

theorem exists_of_bind_eq_ok {ε α β : Type} {x : Except ε α} {f : α → Except ε β} {b : β}
    (h : (x >>= f) = .ok b) : ∃ a, x = .ok a ∧ f a = .ok b := by
  cases x with
  | error e => cases h
  | ok a => exact ⟨a, rfl, h⟩

namespace DotEnv

variable {P : Char → Prop} {vars : Text → Text}

namespace ValueState

variable {s s' : ValueState} {c : Char}

theorem forall_put (hs : ∀ x ∈ s.output, P x) (hc : P c) : ∀ x ∈ (s.put c).output, P x := by
  simp only [put, List.mem_append, List.mem_singleton]
  rintro x (hx | rfl)
  · exact hs x hx
  · exact hc

theorem forall_substitute (hvars : ∀ n, ∀ x ∈ vars n, P x) (hs : ∀ x ∈ s.output, P x) :
    ∀ x ∈ (s.substitute vars).output, P x := by
  simp only [substitute, List.mem_append]
  rintro x (hx | hx)
  · exact hs x hx
  · exact hvars _ x hx

theorem forall_inReference (hvars : ∀ n, ∀ x ∈ vars n, P x) (hs : ∀ x ∈ s.output, P x) (hc : P c) :
    ∀ x ∈ (s.inReference vars c).output, P x := by
  have hsub := forall_substitute hvars hs
  unfold inReference
  repeat' split
  all_goals first | exact hs | exact hsub | exact forall_put hsub hc

theorem forall_plain (hs : ∀ x ∈ s.output, P x) (hc : P c) : ∀ x ∈ (s.plain c).output, P x := by
  unfold plain
  repeat' split
  all_goals first | exact hs | exact forall_put hs hc

theorem eq_of_unescaped? {x : Char} (h : unescaped? c = some x) : x = c ∨ x = '\n' := by
  unfold unescaped? at h
  split at h
  · exact .inl (Option.some.inj h).symm
  split at h
  · exact .inr (Option.some.inj h).symm
  · cases h

theorem forall_run (hnl : P '\n') (hvars : ∀ n, ∀ x ∈ vars n, P x) (t : Text) (i : Nat) (s : ValueState)
    (ht : ∀ x ∈ t, P x) (hs : ∀ x ∈ s.output, P x) (h : run vars i t s = .ok s') : ∀ x ∈ s'.output, P x := by
  induction t generalizing i s with
  | nil =>
    cases h
    exact hs
  | cons c cs ih =>
    obtain ⟨hc, hcs⟩ := List.forall_mem_cons.1 ht
    unfold run at h
    split at h
    · split at h
      · exact ih _ _ hcs hs h
      split at h
      · cases h
        exact hs
      · cases h
    split at h
    · split at h
      next x hx =>
        have hPx : P x := by
          obtain rfl | rfl := eq_of_unescaped? hx
          · exact hc
          · exact hnl
        exact ih _ _ hcs (forall_put (s := { s with escaped := false }) hs hPx) h
      · cases h
    split at h
    · refine ih _ _ hcs ?_ h
      split
      · exact hs
      · exact forall_put hs hc
    split at h
    · exact ih _ _ hcs (forall_inReference hvars hs hc) h
    · exact ih _ _ hcs (forall_plain hs hc) h

end ValueState

theorem forall_readValue (hnl : P '\n') (hvars : ∀ n, ∀ x ∈ vars n, P x) {t v : Text} (ht : ∀ x ∈ t, P x)
    (h : readValue vars t = .ok v) : ∀ x ∈ v, P x := by
  unfold readValue at h
  cases hr : ValueState.run vars 0 t .start with
  | error i =>
    rw [hr] at h
    cases h
  | ok s =>
    rw [hr] at h
    dsimp only at h
    split at h
    · cases h
    · cases h
      have hs := ValueState.forall_run hnl hvars t 0 _ ht (by simp [ValueState.start]) hr
      exact ValueState.forall_substitute hvars hs

theorem Cursor.rest_skipBlanks_subset (c : Cursor) : c.skipBlanks.rest ⊆ c.rest := (List.dropWhile_suffix _).subset

theorem Cursor.rest_subset_of_name? {c c' : Cursor} {n : Text} (h : c.name? = some (n, c')) :
    c'.skipBlanks.rest ⊆ c.rest := by
  refine List.Subset.trans (rest_skipBlanks_subset c') ?_
  unfold Cursor.name? at h
  repeat' split at h
  all_goals cases h
  exact (List.dropWhile_suffix _).subset

theorem Cursor.rest_subset_of_equals? {c c' : Cursor} (h : c.equals? = some c') : c'.rest ⊆ c.rest := by
  unfold Cursor.equals? at h
  split at h
  next rest hr =>
    cases h
    rw [hr]
    exact List.subset_cons_self _ _
  · cases h

theorem rest_subset_of_readName {line n : Text} {c c' : Cursor} (h : readName line c = .ok (n, c')) :
    c'.rest ⊆ c.rest := by
  unfold readName at h
  obtain ⟨⟨n1, c1⟩, h1, h⟩ := exists_of_bind_eq_ok h
  dsimp only at h1 h
  have hc1 : c1.rest ⊆ c.rest := by
    split at h1
    next hd =>
      cases h1
      exact Cursor.rest_subset_of_name? hd
    · cases h1
  split at h
  · obtain ⟨⟨n2, c2⟩, h2, h⟩ := exists_of_bind_eq_ok h
    obtain ⟨c3, h3, h⟩ := exists_of_bind_eq_ok h
    cases h
    dsimp only at h2 h3
    have hc2 : c2.rest ⊆ c1.rest := by
      split at h2
      next hd =>
        cases h2
        exact Cursor.rest_subset_of_name? hd
      · cases h2
    split at h3
    next hd =>
      cases h3
      exact List.Subset.trans (Cursor.rest_subset_of_equals? hd) (List.Subset.trans hc2 hc1)
    · cases h3
  · obtain ⟨c2, h2, h⟩ := exists_of_bind_eq_ok h
    cases h
    split at h2
    next hd =>
      cases h2
      exact List.Subset.trans (Cursor.rest_subset_of_equals? hd) hc1
    · cases h2

theorem trimEnd_subset (t : Text) : trimEnd t ⊆ t := fun x hx => by
  have hr := (List.dropWhile_suffix isBlank (l := t.reverse)).subset (List.mem_reverse.1 hx)
  exact List.mem_reverse.1 hr

theorem forall_readLine (hnl : P '\n') (hvars : ∀ n, ∀ x ∈ vars n, P x) {line : Text} {a : Assignment}
    (hline : ∀ x ∈ line, P x) (h : readLine vars line = .ok (some a)) : ∀ x ∈ a.value.getD [], P x := by
  unfold readLine at h
  dsimp only at h
  split at h
  · cases h
  · obtain ⟨⟨n, c⟩, hn, h⟩ := exists_of_bind_eq_ok h
    dsimp only at h
    split at h
    · cases h
      simp
    · obtain ⟨v, hv, h⟩ := exists_of_bind_eq_ok h
      cases h
      refine forall_readValue hnl hvars (fun x hx => hline x ?_) hv
      have hc := rest_subset_of_readName hn (Cursor.rest_skipBlanks_subset c hx)
      exact trimEnd_subset line (Cursor.rest_skipBlanks_subset ⟨trimEnd line, 0⟩ hc)

section Lines

theorem mem_physicalLines {content l : Bytes} (h : l ∈ physicalLines content) : l ⊆ content := by
  induction content generalizing l with
  | nil => cases h
  | cons b bs ih =>
    unfold physicalLines at h
    split at h
    · rcases List.mem_cons.1 h with rfl | h
      · simp
      · exact List.Subset.trans (ih h) (List.subset_cons_self b bs)
    · cases hp : physicalLines bs with
      | nil =>
        rw [hp] at h
        obtain rfl := List.mem_singleton.1 h
        simp
      | cons first rest =>
        rw [hp] at h ih
        rcases List.mem_cons.1 h with rfl | h
        · exact List.cons_subset_cons b (ih List.mem_cons_self)
        · exact List.Subset.trans (ih (List.mem_cons_of_mem first h)) (List.subset_cons_self b bs)

theorem withoutMark_subset (content : Bytes) : withoutMark content ⊆ content := by
  unfold withoutMark
  split
  · exact List.drop_subset 3 content
  · exact List.Subset.refl content

theorem Quoting.through_subset (q : Quoting) (t : Text) : (q.through t).1 ⊆ t := by
  induction t generalizing q with
  | nil => simp [through]
  | cons c cs ih =>
    unfold through
    split
    · simp
    · exact List.cons_subset_cons c (ih (q.next c))

theorem chomp_subset (t : Text) : chomp t ⊆ t := by
  intro x hx
  rw [← List.mem_reverse]
  unfold chomp at hx
  split at hx
  next rest hr =>
    rw [hr]
    simp at hx
    simp [hx]
  next rest _ hr =>
    rw [hr]
    simp at hx
    simp [hx]
  next => simpa using hx

theorem forall_logicalFrom {ls : List (Option Text)} (hls : ∀ l, some l ∈ ls → ∀ x ∈ l, P x) (read : Text) (q : Quoting)
    (hread : ∀ x ∈ read, P x) {line : Text} (h : .ok line ∈ logicalFrom read q ls) : ∀ x ∈ line, P x := by
  induction ls generalizing read q with
  | nil =>
    unfold logicalFrom at h
    split at h <;> simp at h
  | cons l ls ih =>
    have hrest := fun l' hl' => hls l' (List.mem_cons_of_mem l hl')
    cases l with
    | none => simp [logicalFrom] at h
    | some l =>
      have hboth : ∀ x ∈ read ++ l, P x := by
        intro x hx
        rcases List.mem_append.1 hx with hx | hx
        · exact hread x hx
        · exact hls l List.mem_cons_self x hx
      unfold logicalFrom at h
      split at h
      · rcases List.mem_cons.1 h with h | h
        · cases h
          simp
        · exact ih hrest [] .plain (by simp) h
      · split at h
        next kept hk =>
          rcases List.mem_cons.1 h with h | h
          · cases h
            intro x hx
            refine hboth x ?_
            rcases List.mem_append.1 hx with hx | hx
            · exact List.mem_append_left l hx
            · have hkept := q.through_subset l
              rw [hk] at hkept
              exact List.mem_append_right read (hkept hx)
          · exact ih hrest [] .plain (by simp) h
        · rcases List.mem_cons.1 h with h | h
          · cases h
            exact fun x hx => hboth x (chomp_subset _ hx)
          · exact ih hrest [] .plain (by simp) h
        · exact ih hrest _ _ hboth h

theorem nul_not_mem_logicalLines {content : Bytes} (h : 0 ∉ content) {line : Text}
    (hl : .ok line ∈ logicalLines content) : '\x00' ∉ line := by
  intro hn
  refine forall_logicalFrom (P := (· ≠ '\x00')) (fun l hl' x hx hx0 => ?_) [] .plain (by simp) hl _ hn rfl
  obtain ⟨p, hp, hd⟩ := List.mem_map.1 hl'
  refine nul_not_mem_of_decode? hd (fun h0 => h ?_) (hx0 ▸ hx)
  exact withoutMark_subset content (mem_physicalLines hp h0)

end Lines

section NulFree

theorem mem_of_lookup {α β : Type} [BEq α] [LawfulBEq α] {l : List (α × β)} {k : α} {v : β} (h : l.lookup k = some v) :
    (k, v) ∈ l := by
  obtain ⟨before, after, rfl, -⟩ := List.lookup_eq_some_iff.1 h
  simp

variable {e : Env} {seen : Assigned}

theorem nul_not_mem_entryValue? (he : ∀ b ∈ e, 0 ∉ b.2) {name v : Text} (h : entryValue? e name = some v) :
    '\x00' ∉ v := by
  have hget {n w : Bytes} (hw : e.get? n = some w) : 0 ∉ w := he (n, w) (mem_of_lookup hw)
  unfold entryValue? at h
  dsimp only at h
  split at h
  · obtain ⟨w, hw, hd⟩ := Option.bind_eq_some_iff.1 h
    exact nul_not_mem_of_decode? hd (hget hw)
  · obtain ⟨w, hw, hd⟩ := Option.bind_eq_some_iff.1 h
    split at hd
    · exact nul_not_mem_of_decode? hd fun h0 => hget hw (List.mem_of_mem_drop h0)
    · cases hd

theorem nul_not_mem_valueOf (he : ∀ b ∈ e, 0 ∉ b.2) (hs : ∀ p ∈ seen, '\x00' ∉ p.2.getD []) (name : Text) :
    '\x00' ∉ valueOf e seen name := by
  unfold valueOf
  cases hv : entryValue? e name with
  | some v => exact nul_not_mem_entryValue? he hv
  | none =>
    cases hl : seen.lookup name with
    | none => simp
    | some o =>
      have ho := hs (name, o) (mem_of_lookup hl)
      cases o with
      | none => simp
      | some v => exact ho

theorem nul_not_mem_of_readLine (he : ∀ b ∈ e, 0 ∉ b.2) (hs : ∀ p ∈ seen, '\x00' ∉ p.2.getD []) {line : Text}
    (hline : '\x00' ∉ line) {a : Assignment} (h : readLine (valueOf e seen) line = .ok (some a)) : '\x00' ∉ a.text := by
  have hvars : ∀ n, ∀ x ∈ valueOf e seen n, x ≠ '\x00' := fun n x hx h0 => nul_not_mem_valueOf he hs n (h0 ▸ hx)
  exact fun h0 => forall_readLine (P := (· ≠ '\x00')) (by decide) hvars (fun x hx hx0 => hline (hx0 ▸ hx)) h _ h0 rfl

theorem nul_not_mem_additions (ls : List (Except Trouble Text)) (seen : Assigned) (e : Env)
    (hls : ∀ line, .ok line ∈ ls → '\x00' ∉ line) (hs : ∀ p ∈ seen, '\x00' ∉ p.2.getD [])
    (he : ∀ b ∈ e, 0 ∉ b.2) : ∀ a ∈ additions ls seen e, '\x00' ∉ a.text := by
  induction ls generalizing seen e with
  | nil => simp [additions]
  | cons l rest ih =>
    have hrest := fun line hline => hls line (List.mem_cons_of_mem l hline)
    cases effect seen e l with
    | trouble _ t hl => simp [(hl rest).1]
    | nothing _ hl =>
      rw [(hl rest).1]
      exact ih _ _ hrest hs he
    | kept line a hr hl =>
      have ha := nul_not_mem_of_readLine he hs (hls line List.mem_cons_self) hr
      rw [(hl rest).1]
      exact ih _ _ hrest (List.forall_mem_cons.2 ⟨ha, hs⟩) he
    | added line a hr _ hl =>
      have ha := nul_not_mem_of_readLine he hs (hls line List.mem_cons_self) hr
      rw [(hl rest).1]
      refine List.forall_mem_cons.2 ⟨ha, ih _ _ hrest (List.forall_mem_cons.2 ⟨ha, hs⟩) fun b hb => ?_⟩
      obtain hb | rfl := Env.mem_set hb
      · exact he b hb
      · exact fun h0 => ha (zero_mem_utf8_iff.1 h0)

theorem nul_not_mem_added {m : Machine} (he : ∀ b ∈ m.env, 0 ∉ b.2)
    (hf : ∀ content, search m = .found content → 0 ∉ content) : ∀ a ∈ added m, '\x00' ∉ a.text := by
  unfold added
  split
  next content hs =>
    exact nul_not_mem_additions _ _ _ (fun line hl => nul_not_mem_logicalLines (hf content hs) hl) (by simp) he
  · simp

end NulFree

end DotEnv

end Slipway
