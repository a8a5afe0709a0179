import Slipway.Proofs.CommandLine.Items
set_option autoImplicit false

/-!
Which fault a command line is refused for.  A use at fault is refused for its own fault: at once where its value is
attached, and where the value stands apart, or lacks, as soon as the next token settles what is pending.  `Unveils` holds
of the tokens that settle it before they do anything else, and every spelling of a use begins with such a token.
-/

namespace Slipway.CommandLine

/-- The spelling gives an option these very bytes.  Apart from the option they must not look like another one; joined to
its letter they must be there, and an equals sign in front would be taken off. -/
def Spelling.Carries (v : Bytes) : Spelling → Prop
  | .longApart | .letterApart => IsPlain v
  | .letterJoined => v ≠ [] ∧ v.head? ≠ some Grammar.equalsSign
  | .longJoined | .letterEquals => True

namespace Grammar

variable {ι : Type} (g : Grammar ι)

inductive Spells : ι → Option Bytes → List Bytes → Prop
  | switch {o : ι} (hk : (g.spec o).kind = .switch) : Spells o none [g.longToken o]
  | longApart {o : ι} {v : Bytes} (hk : (g.spec o).kind.isValue = true) (hp : IsPlain v) :
      Spells o (some v) [g.longToken o, v]
  | longJoined {o : ι} {v : Bytes} (hk : (g.spec o).kind.isValue = true) :
      Spells o (some v) [g.longToken o ++ equalsSign :: v]
  | letterApart {o : ι} {v : Bytes} {c : Char} (hk : (g.spec o).kind.isValue = true)
      (hc : (g.spec o).letter? = some c) (hp : IsPlain v) : Spells o (some v) [letterToken c, v]
  | letterJoined {o : ι} {b : UInt8} {v : Bytes} {c : Char} (hk : (g.spec o).kind.isValue = true)
      (hc : (g.spec o).letter? = some c) (hb : b ≠ equalsSign) : Spells o (some (b :: v)) [letterToken c ++ b :: v]
  | letterEquals {o : ι} {v : Bytes} {c : Char} (hk : (g.spec o).kind.isValue = true)
      (hc : (g.spec o).letter? = some c) : Spells o (some v) [letterToken c ++ equalsSign :: v]

inductive Awaits : ι → Bytes → Prop
  | long {o : ι} (hk : (g.spec o).kind.isValue = true) : Awaits o (g.longToken o)
  | letter {o : ι} {c : Char} (hk : (g.spec o).kind.isValue = true) (hc : (g.spec o).letter? = some c) :
      Awaits o (letterToken c)

variable {g} in
theorem Written.spells {o : ι} {v : Option Bytes} {ts : List Bytes} (h : g.Written o v ts) : g.Spells o v ts := by
  cases h with
  | switch hv => exact .switch hv
  | longApart hv hp => exact .longApart hv.1 hp
  | longJoined hv => exact .longJoined hv.1
  | letterApart hv hc hp => exact .letterApart hv.1 hc hp
  | letterJoined hv hc hb => exact .letterJoined hv.1 hc hb
  | letterEquals hv hc => exact .letterEquals hv.1 hc

variable {g} in
theorem Awaits.isValue {o : ι} {t : Bytes} (h : g.Awaits o t) : (g.spec o).kind.isValue = true := by
  cases h <;> assumption

theorem spells_spelling {o : ι} {c : Char} {v : Bytes} {s : Spelling} (hk : (g.spec o).kind.isValue = true)
    (hc : (g.spec o).letter? = some c) (hs : s.Carries v) : g.Spells o (some v) (s.tokens (g.spec o).long c v) := by
  rw [Spelling.tokens_eq]
  cases s with
  | longApart => exact .longApart hk hs
  | longJoined => exact .longJoined hk
  | letterApart => exact .letterApart hk hc hs
  | letterEquals => exact .letterEquals hk hc
  | letterJoined =>
    obtain ⟨hne, he⟩ := hs
    cases v with
    | nil => exact absurd rfl hne
    | cons b v => exact .letterJoined hk hc (by simpa using he)

variable [BEq ι]

/-- The token brings a pending fault to light before anything else. -/
def Unveils (t : Bytes) : Prop :=
  ∀ p f, (g.settle p).2 = some f → g.readToken p t = .finished (.refused f)

variable {g}

theorem exists_settle_eq {p : Progress ι} {f : Fault ι} (h : (g.settle p).2 = some f) :
    ∃ q, g.settle p = (q, some f) := ⟨_, Prod.ext rfl h⟩

theorem unveils_of_use {t : Bytes} {o : ι} {v : Option Bytes}
    (hr : ∀ p, g.readToken p t = .ofExcept (g.settleThenUse p o v)) : g.Unveils t := by
  intro p f hs
  obtain ⟨q, hq⟩ := exists_settle_eq hs
  rw [hr p]
  simp only [settleThenUse, hq, Turn.ofExcept]

theorem Awaits.readToken (hg : g.Clear) {o : ι} {t : Bytes} (h : g.Awaits o t) (p : Progress ι) :
    g.readToken p t = .ofExcept (g.settleThenAwait p o) := by
  cases h with
  | long hk => exact g.readToken_await_long hg p o hk
  | letter hk hc => exact g.readToken_await_letter hg p o _ hk hc

theorem Awaits.unveils (hg : g.Clear) {o : ι} {t : Bytes} (h : g.Awaits o t) : g.Unveils t := by
  intro p f hs
  obtain ⟨q, hq⟩ := exists_settle_eq hs
  rw [h.readToken hg p]
  simp only [settleThenAwait, hq, Turn.ofExcept]

theorem Spells.cases_tokens (hg : g.Clear) [LawfulBEq ι] {o : ι} {v : Option Bytes} {ts : List Bytes}
    (h : g.Spells o v ts) :
    (∃ t, ts = [t] ∧ ∀ p, g.readToken p t = .ofExcept (g.settleThenUse p o v)) ∨
      ∃ t x, ts = [t, x] ∧ v = some x ∧ g.Awaits o t ∧ IsPlain x := by
  cases h with
  | switch hk => exact .inl ⟨_, rfl, fun p => g.readToken_switch hg p o hk⟩
  | longJoined hk => exact .inl ⟨_, rfl, fun p => g.readToken_use_long hg p o _ hk⟩
  | @letterJoined b v c hk hc hb =>
    refine .inl ⟨_, rfl, fun p => ?_⟩
    simpa [hb] using g.readToken_use_letter hg p o c b v hk hc
  | @letterEquals v c hk hc =>
    refine .inl ⟨_, rfl, fun p => ?_⟩
    simpa using g.readToken_use_letter hg p o c equalsSign v hk hc
  | longApart hk hp => exact .inr ⟨_, _, rfl, rfl, .long hk, hp⟩
  | letterApart hk hc hp => exact .inr ⟨_, _, rfl, rfl, .letter hk hc, hp⟩

theorem Spells.unveils (hg : g.Clear) [LawfulBEq ι] {o : ι} {v : Option Bytes} {ts : List Bytes}
    (h : g.Spells o v ts) (rest : List Bytes) : ∀ t ∈ (ts ++ rest).head?, g.Unveils t := by
  obtain ⟨t, rfl, hr⟩ | ⟨t, x, rfl, rfl, ha, -⟩ := h.cases_tokens hg
  · simpa using unveils_of_use hr
  · simpa using ha.unveils hg

variable (g)

theorem scanFrom_of_unveiled (p : Progress ι) (f : Fault ι) (ts : List Bytes) (hs : (g.settle p).2 = some f)
    (ht : ∀ t ∈ ts.head?, g.Unveils t) : g.scanFrom p ts = .refused f := by
  cases ts with
  | nil =>
    obtain ⟨q, hq⟩ := exists_settle_eq hs
    simp only [scanFrom, finish, hq]
  | cons t ts => rw [scanFrom_cons, ht t rfl p f hs]

section Faults

variable {g} (hg : g.Clear) {p : Progress ι} {us : List (ι × Option Bytes)}

include hg

theorem scanFrom_spells_fault [LawfulBEq ι] {o : ι} {v : Option Bytes} {ts : List Bytes} {f : Fault ι}
    (h : g.Spells o v ts) (hp : g.Holds p us) (hf : (g.use (counted us) o v).2 = some f) (rest : List Bytes)
    (hrest : ∀ t ∈ rest.head?, g.Unveils t) : g.scanFrom p (ts ++ rest) = .refused f := by
  obtain ⟨t, rfl, hr⟩ | ⟨t, x, rfl, rfl, ha, hx⟩ := h.cases_tokens hg
  · obtain ⟨q, hu⟩ : ∃ q, g.use (counted us) o v = (q, some f) := ⟨_, Prod.ext rfl hf⟩
    rw [List.singleton_append, scanFrom_cons, hr p]
    simp only [settleThenUse, hp.settled, hu, Turn.ofExcept]
  · -- The pending use is settled as it would have counted at once.
    rw [List.cons_append, g.scanFrom_await p us o t _ (ha.readToken hg p) hp]
    exact (g.scanFrom_awaited (counted us) o x rest hx).trans (g.scanFrom_of_unveiled _ f rest hf hrest)

theorem scanFrom_awaits_end {o : ι} {t : Bytes} (h : g.Awaits o t) (hp : g.Holds p us) :
    g.scanFrom p [t] = .refused (.valueMissing o) := by
  rw [g.scanFrom_await p us o t [] (h.readToken hg p) hp]
  exact g.scanFrom_of_unveiled _ _ [] (g.settle_awaiting us o h.isValue) (by simp)

end Faults

section Use

variable {g} [LawfulBEq ι]

theorem Spells.use_repeated {o : ι} {v : Option Bytes} {ts : List Bytes} (h : g.Spells o v ts)
    (us : List (ι × Option Bytes)) (ho : o ∈ us.map (·.1)) : (g.use (counted us) o v).2 = some (.repeated o) := by
  have he : (counted us).used.elem o = true := by simpa [counted] using ho
  have hvalue (v : Bytes) (hk : (g.spec o).kind.isValue = true) :
      (g.use (counted us) o (some v)).2 = some (.repeated o) := by
    obtain ⟨letter, metavar, default, choices, hk⟩ := Kind.exists_of_isValue _ hk
    simp only [use, hk, he, if_true]
  cases h with
  | switch hk => simp only [use, hk, he, if_true]
  | longApart hk hp => exact hvalue _ hk
  | longJoined hk => exact hvalue _ hk
  | letterApart hk hc hp => exact hvalue _ hk
  | letterJoined hk hc hb => exact hvalue _ hk
  | letterEquals hk hc => exact hvalue _ hk

theorem use_valueFault (us : List (ι × Option Bytes)) (o : ι) (v : Bytes) (f : Fault ι)
    (hk : (g.spec o).kind.isValue = true) (ho : o ∉ us.map (·.1)) (hf : g.valueFault? o v = some f) :
    (g.use (counted us) o (some v)).2 = some f := by
  obtain ⟨letter, metavar, default, choices, hk⟩ := Kind.exists_of_isValue _ hk
  have he : (counted us).used.elem o = false := by simpa [counted] using ho
  simp only [use, hk, he, Bool.false_eq_true, if_false, hf]

end Use

namespace Worded

variable {g} {Item : Type} (w : g.Worded Item) [LawfulBEq ι] (hg : g.Clear)

include hg

theorem scanFrom_items (items : List Item) (us : List (ι × Option Bytes)) (p : Progress ι) (hp : g.Holds p us)
    (hd : ((us ++ items.map w.use).map (·.1)).Nodup) (rest : List Bytes) :
    ∃ p', g.Holds p' (us ++ items.map w.use) ∧
      g.scanFrom p (items.flatMap w.tokens ++ rest) = g.scanFrom p' rest := by
  induction items generalizing us p with
  | nil => exact ⟨p, by simpa using hp, rfl⟩
  | cons i items ih =>
    have hsnoc : us ++ (i :: items).map w.use = us ++ [w.use i] ++ items.map w.use := by simp
    rw [hsnoc] at hd ⊢
    have ho : (w.use i).1 ∉ us.map (·.1) := by
      simp only [List.append_assoc, List.singleton_append, List.map_append, List.map_cons] at hd
      exact fun hmem => (List.nodup_append.1 hd).2.2 _ hmem _ List.mem_cons_self rfl
    obtain ⟨q, hq, hscan⟩ := g.scanFrom_written hg p us _ _ _ (items.flatMap w.tokens ++ rest) (w.written i) hp ho
    obtain ⟨p', hp', hscan'⟩ := ih _ q hq hd
    exact ⟨p', hp', by rw [List.flatMap_cons, List.append_assoc, hscan, hscan']⟩

theorem scan_items (items : List Item) (hd : (items.map w.option).Nodup) (rest : List Bytes) :
    ∃ p, g.Holds p (items.map w.use) ∧ g.scan (items.flatMap w.tokens ++ rest) = g.scanFrom p rest :=
  w.scanFrom_items hg items [] .start (g.holds_counted []) ((w.nodup_option items).symm ▸ hd) rest

theorem unveils_items (items : List Item) (rest : List Bytes) (hrest : ∀ t ∈ rest.head?, g.Unveils t) :
    ∀ t ∈ (items.flatMap w.tokens ++ rest).head?, g.Unveils t := by
  cases items with
  | nil => exact hrest
  | cons i items =>
    rw [List.flatMap_cons, List.append_assoc]
    exact (w.written i).spells.unveils hg _

theorem scan_valueFault (before : List Item) (hd : (before.map w.option).Nodup) {o : ι}
    (ho : o ∉ before.map w.option) {v : Bytes} {ts : List Bytes} (h : g.Spells o (some v) ts)
    (hk : (g.spec o).kind.isValue = true) {f : Fault ι} (hf : g.valueFault? o v = some f) (after : List Item) :
    g.scan (before.flatMap w.tokens ++ (ts ++ after.flatMap w.tokens)) = .refused f := by
  obtain ⟨p, hp, hscan⟩ := w.scan_items hg before hd (ts ++ after.flatMap w.tokens)
  have huse : (g.use (counted (before.map w.use)) o (some v)).2 = some f := by
    refine use_valueFault _ o v f hk ?_ hf
    rwa [List.map_map]
  have hafter := w.unveils_items hg after [] (by simp)
  rw [List.append_nil] at hafter
  rw [hscan, scanFrom_spells_fault hg h hp huse _ hafter]

theorem scan_valueMissing (before : List Item) (hd : (before.map w.option).Nodup) {o : ι} {t : Bytes}
    (h : g.Awaits o t) : g.scan (before.flatMap w.tokens ++ [t]) = .refused (.valueMissing o) := by
  obtain ⟨p, hp, hscan⟩ := w.scan_items hg before hd [t]
  rw [hscan, scanFrom_awaits_end hg h hp]

theorem scan_repeated (first : List Item) (hd : (first.map w.option).Nodup) (i : Item)
    (hi : w.option i ∈ first.map w.option) (rest : List Bytes) (hrest : ∀ t ∈ rest.head?, g.Unveils t) :
    g.scan (first.flatMap w.tokens ++ (w.tokens i ++ rest)) = .refused (.repeated (w.option i)) := by
  obtain ⟨p, hp, hscan⟩ := w.scan_items hg first hd (w.tokens i ++ rest)
  have hs := (w.written i).spells
  have huse : (g.use (counted (first.map w.use)) (w.use i).1 (w.use i).2).2 = some (.repeated (w.option i)) := by
    refine hs.use_repeated _ ?_
    rwa [List.map_map]
  rw [hscan, scanFrom_spells_fault hg hs hp huse rest hrest]

end Worded

end Grammar

end Slipway.CommandLine
