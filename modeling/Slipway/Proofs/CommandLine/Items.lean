import Slipway.Proofs.CommandLine.Spelling
set_option autoImplicit false

namespace Slipway.CommandLine

/-- A command reads its arguments as items, each option at most once.  It runs when nothing but one `--` follows
them, gives a text when the token behind them asks for one, and refuses its arguments otherwise. -/
structure ReadsItems {Item ι α : Type} (parse : List Bytes → Except Failure (Invocation α)) (option : Item → ι)
    (tokens : Item → List Bytes) (request : List Item → α) : Prop where
  runs : ∀ args r, parse args = .ok (.run r) ↔
    ∃ items : List Item, (items.map option).Nodup ∧
      (args = items.flatMap tokens ∨ args = items.flatMap tokens ++ [dashes]) ∧ r = request items
  informs : ∀ args, (∃ text, parse args = .ok (.info text)) ↔
    ∃ (items : List Item) (t : Bytes) (rest : List Bytes), (items.map option).Nodup ∧
      args = items.flatMap tokens ++ t :: rest ∧ AsksForText t
  refuses : ∀ args, ¬ (∃ r, parse args = .ok (.run r)) → ¬ (∃ text, parse args = .ok (.info text)) →
    ∃ d, parse args = .error (.refusedArguments d)

namespace Grammar

variable {ι : Type} (g : Grammar ι)

structure Worded (Item : Type) where
  use : Item → ι × Option Bytes
  tokens : Item → List Bytes
  written : ∀ i, g.Written (use i).1 (use i).2 (tokens i)
  complete : ∀ o v ts, g.Written o v ts → ∃ i, use i = (o, v) ∧ tokens i = ts

namespace Worded

variable {Item : Type} {g} (w : g.Worded Item)

def option (i : Item) : ι := (w.use i).1

theorem nodup_option (items : List Item) :
    (([] ++ items.map w.use).map Prod.fst).Nodup = (items.map w.option).Nodup := by
  rw [List.nil_append, List.map_map]
  rfl

theorem reads_append (items : List Item) (us : List (ι × Option Bytes)) (rest : List Bytes) (r : Reading ι)
    (hd : ((us ++ items.map w.use).map (·.1)).Nodup) (h : g.Reads (us ++ items.map w.use) rest r) :
    g.Reads us (items.flatMap w.tokens ++ rest) r := by
  induction items generalizing us with
  | nil => simpa using h
  | cons i items ih =>
    have hsnoc : us ++ (i :: items).map w.use = us ++ [w.use i] ++ items.map w.use := by simp
    rw [hsnoc] at hd h
    -- The head's option is not among the earlier ones, because no option of the whole row comes twice.
    have ho : (w.use i).1 ∉ us.map (·.1) := by
      intro hmem
      rw [List.map_append, List.map_append] at hd
      have hdis := (List.nodup_append.1 (List.nodup_append.1 hd).1).2.2
      exact hdis _ hmem _ (by simp) rfl
    rw [List.flatMap_cons, List.append_assoc]
    exact .use (w.written i) ho (ih _ hd h)

theorem exists_items (us : List (ι × Option Bytes)) (ts : List Bytes) (r : Reading ι) (h : g.Reads us ts r)
    (hd : (us.map (·.1)).Nodup) :
    ∃ items : List Item, ((us ++ items.map w.use).map (·.1)).Nodup ∧
      (r = .accepted (counted (us ++ items.map w.use)).used (counted (us ++ items.map w.use)).values ∧
          (ts = items.flatMap w.tokens ∨ ts = items.flatMap w.tokens ++ [dashes]) ∨
        ∃ i t rest, g.Asks i t ∧ r = .info i ∧ ts = items.flatMap w.tokens ++ t :: rest) := by
  induction h with
  | done us => exact ⟨[], by simpa using hd, .inl ⟨by simp, .inl rfl⟩⟩
  | dashes us => exact ⟨[], by simpa using hd, .inl ⟨by simp, .inr rfl⟩⟩
  | asks rest h => exact ⟨[], by simpa using hd, .inr ⟨_, _, rest, h, rfl, rfl⟩⟩
  | @use us o v ts rest r h ho hr ih =>
    have hd' : ((us ++ [(o, v)]).map (·.1)).Nodup := by
      rw [List.map_append, List.nodup_append]
      refine ⟨hd, by simp, ?_⟩
      intro a ha b hb hab
      simp only [List.map_cons, List.map_nil, List.mem_singleton] at hb
      exact ho (hb ▸ hab ▸ ha)
    obtain ⟨items, hn, hend⟩ := ih hd'
    obtain ⟨i, hu, ht⟩ := w.complete o v ts h
    have hsnoc : us ++ (i :: items).map w.use = us ++ [(o, v)] ++ items.map w.use := by simp [hu]
    refine ⟨i :: items, by rw [hsnoc]; exact hn, ?_⟩
    rw [hsnoc, List.flatMap_cons, ht]
    obtain ⟨hacc, rfl | rfl⟩ | ⟨i', t, more, ha, hinfo, rfl⟩ := hend
    · exact .inl ⟨hacc, .inl rfl⟩
    · exact .inl ⟨hacc, .inr (by rw [List.append_assoc])⟩
    · exact .inr ⟨i', t, more, ha, hinfo, by rw [List.append_assoc]⟩

section Scan

variable [BEq ι] [LawfulBEq ι]

theorem scan_accepted (hg : g.Clear) (args : List Bytes) (used : List ι) (values : List (ι × Bytes)) :
    g.scan args = .accepted used values ↔
      ∃ items : List Item, (items.map w.option).Nodup ∧
        (args = items.flatMap w.tokens ∨ args = items.flatMap w.tokens ++ [dashes]) ∧
        used = (counted (items.map w.use)).used ∧ values = (counted (items.map w.use)).values := by
  rw [g.scan_eq_iff hg _ _ (by simp)]
  constructor
  · intro h
    obtain ⟨items, hn, ⟨hacc, hform⟩ | ⟨i, t, rest, ha, hinfo, hform⟩⟩ := w.exists_items [] args _ h (by simp)
    · injection hacc with hu hv
      exact ⟨items, w.nodup_option items ▸ hn, hform, hu, hv⟩
    · cases hinfo
  · rintro ⟨items, hn, hform, rfl, rfl⟩
    have hn' := (w.nodup_option items).symm ▸ hn
    obtain rfl | rfl := hform
    · have hr := w.reads_append items [] [] _ hn' (.done _)
      rwa [List.append_nil] at hr
    · exact w.reads_append items [] _ _ hn' (.dashes _)

theorem scan_info (hg : g.Clear) (args : List Bytes) (i : Info) :
    g.scan args = .info i ↔
      ∃ (items : List Item) (t : Bytes) (rest : List Bytes), (items.map w.option).Nodup ∧
        args = items.flatMap w.tokens ++ t :: rest ∧ g.Asks i t := by
  rw [g.scan_eq_iff hg _ _ (by simp)]
  constructor
  · intro h
    obtain ⟨items, hn, ⟨hacc, hform⟩ | ⟨i', t, rest, ha, hinfo, hform⟩⟩ := w.exists_items [] args _ h (by simp)
    · cases hacc
    · cases hinfo
      exact ⟨items, t, rest, w.nodup_option items ▸ hn, hform, ha⟩
  · rintro ⟨items, t, rest, hn, rfl, ha⟩
    have hn' := (w.nodup_option items).symm ▸ hn
    exact w.reads_append items [] _ _ hn' (.asks rest ha)

theorem readsItems (hg : g.Clear) {α : Type} (name : Bytes) (request : List ι → List (ι × Bytes) → α)
    (meant : List Item → α)
    (hm : ∀ items, request (counted (items.map w.use)).used (counted (items.map w.use)).values = meant items)
    (ha : ∀ t, AsksForText t ↔ ∃ i, g.Asks i t) :
    ReadsItems (fun args => parse g request (name :: args)) w.option w.tokens meant where
  runs := by
    intro args r
    constructor
    · intro h
      cases hs : g.scan args with
      | accepted used values =>
        obtain ⟨items, hn, hform, rfl, rfl⟩ := (w.scan_accepted hg args used values).1 hs
        simp only [parse, List.tail_cons, hs, hm] at h
        cases h
        exact ⟨items, hn, hform, rfl⟩
      | info i => simp [parse, hs] at h
      | refused f => simp [parse, hs] at h
    · rintro ⟨items, hn, hform, rfl⟩
      have hs := (w.scan_accepted hg args _ _).2 ⟨items, hn, hform, rfl, rfl⟩
      simp only [parse, List.tail_cons, hs, hm]
  informs := by
    intro args
    constructor
    · rintro ⟨text, h⟩
      cases hs : g.scan args with
      | accepted used values => simp [parse, hs] at h
      | refused f => simp [parse, hs] at h
      | info i =>
        obtain ⟨items, t, rest, hn, hform, hi⟩ := (w.scan_info hg args i).1 hs
        exact ⟨items, t, rest, hn, hform, (ha t).2 ⟨i, hi⟩⟩
    · rintro ⟨items, t, rest, hn, hform, ht⟩
      obtain ⟨i, hi⟩ := (ha t).1 ht
      have hs := (w.scan_info hg args i).2 ⟨items, t, rest, hn, hform, hi⟩
      exact ⟨g.infoText (calledBy g.command (name :: args)) i, by simp only [parse, List.tail_cons, hs]⟩
  refuses := by
    intro args hrun hinfo
    cases hs : g.scan args with
    | accepted used values =>
      refine absurd ⟨request used values, ?_⟩ hrun
      simp only [parse, List.tail_cons, hs]
    | info i =>
      refine absurd ⟨g.infoText (calledBy g.command (name :: args)) i, ?_⟩ hinfo
      simp only [parse, List.tail_cons, hs]
    | refused f =>
      refine ⟨trimEnd (g.diagnostic (calledBy g.command (name :: args)) f), ?_⟩
      simp only [parse, List.tail_cons, hs]

end Scan

end Worded

end Grammar

end Slipway.CommandLine
