import Slipway.Proofs.CommandLine.Token
set_option autoImplicit false

/-!
The command lines a grammar accepts.  `Written` lists the ways to write one use of an option, `Reads` puts such uses
in a row, none of an option already used, up to the end, to a closing `--` or to a request for text.  Scanning gives
what `Reads` says, and refuses every command line for which it says nothing.  The invariant is `Holds`: once the
pending option has counted, the uses so far are the ones on the list.
-/

namespace Slipway.CommandLine

theorem Kind.exists_of_isValue (k : Kind) (h : k.isValue = true) :
    ∃ letter metavar default choices, k = .value letter metavar default choices := by
  cases k with
  | value letter metavar default choices => exact ⟨letter, metavar, default, choices, rfl⟩
  | switch => cases h
  | help => cases h
  | version => cases h

namespace Grammar

variable {ι : Type} [BEq ι] (g : Grammar ι)

def Fits (o : ι) : Option Bytes → Prop
  | none => (g.spec o).kind = .switch
  | some v => (g.spec o).kind.isValue = true ∧ g.valueFault? o v = none

inductive Written : ι → Option Bytes → List Bytes → Prop
  | switch {o : ι} (hv : g.Fits o none) : Written o none [g.longToken o]
  | longApart {o : ι} {v : Bytes} (hv : g.Fits o (some v)) (hp : IsPlain v) : Written o (some v) [g.longToken o, v]
  | longJoined {o : ι} {v : Bytes} (hv : g.Fits o (some v)) : Written o (some v) [g.longToken o ++ equalsSign :: v]
  | letterApart {o : ι} {v : Bytes} {c : Char} (hv : g.Fits o (some v)) (hc : (g.spec o).letter? = some c)
      (hp : IsPlain v) : Written o (some v) [letterToken c, v]
  | letterJoined {o : ι} {b : UInt8} {v : Bytes} {c : Char} (hv : g.Fits o (some (b :: v)))
      (hc : (g.spec o).letter? = some c) (hb : b ≠ equalsSign) : Written o (some (b :: v)) [letterToken c ++ b :: v]
  | letterEquals {o : ι} {v : Bytes} {c : Char} (hv : g.Fits o (some v)) (hc : (g.spec o).letter? = some c) :
      Written o (some v) [letterToken c ++ equalsSign :: v]

inductive Asks : Info → Bytes → Prop
  | help (o : ι) (hk : (g.spec o).kind = .help) : Asks (.help .full) (g.longToken o)
  | version (o : ι) (hk : (g.spec o).kind = .version) : Asks .version (g.longToken o)
  | helpLetter (o : ι) (rest : Bytes) (hk : (g.spec o).kind = .help) : Asks (.help .brief) (letterToken 'h' ++ rest)
  | versionLetter (o : ι) (rest : Bytes) (hk : (g.spec o).kind = .version) : Asks .version (letterToken 'V' ++ rest)

inductive Role : Bytes → Prop
  | plain {t : Bytes} (h : IsPlain t) : Role t
  | dashes : Role dashes
  | use {t : Bytes} {o : ι} {v : Option Bytes}
      (hk : (g.spec o).kind.isValue = true ∨ (g.spec o).kind = .switch ∧ v = none) (hw : g.Fits o v → g.Written o v [t])
      (hr : ∀ p, g.readToken p t = .ofExcept (g.settleThenUse p o v)) : Role t
  | await {t : Bytes} {o : ι} (hk : (g.spec o).kind.isValue = true)
      (hw : ∀ x, g.Fits o (some x) → IsPlain x → g.Written o (some x) [t, x])
      (hr : ∀ p, g.readToken p t = .ofExcept (g.settleThenAwait p o)) : Role t
  | asks {t : Bytes} {i : Info} (h : g.Asks i t) : Role t
  | unknown {t : Bytes} (h : ∀ p, ∃ f, g.readToken p t = .finished (.refused f)) : Role t

def counted (us : List (ι × Option Bytes)) : Progress ι :=
  ⟨us.map (·.1), us.filterMap fun u => u.2.map (u.1, ·), none⟩

/-- What a command line is read as, after the uses in the first argument. -/
inductive Reads : List (ι × Option Bytes) → List Bytes → Reading ι → Prop
  | done (us : List (ι × Option Bytes)) : Reads us [] (.accepted (counted us).used (counted us).values)
  | dashes (us : List (ι × Option Bytes)) : Reads us [dashes] (.accepted (counted us).used (counted us).values)
  | asks {us : List (ι × Option Bytes)} {i : Info} {t : Bytes} (rest : List Bytes) (h : g.Asks i t) :
      Reads us (t :: rest) (.info i)
  | use {us : List (ι × Option Bytes)} {o : ι} {v : Option Bytes} {ts rest : List Bytes} {r : Reading ι}
      (h : g.Written o v ts) (ho : o ∉ us.map (·.1)) (hr : Reads (us ++ [(o, v)]) rest r) : Reads us (ts ++ rest) r

structure Holds (p : Progress ι) (us : List (ι × Option Bytes)) : Prop where
  settled : g.settle p = (counted us, none)
  not_awaiting : ∀ o, p.pending ≠ some ⟨o, none⟩

theorem holds_counted (us : List (ι × Option Bytes)) : g.Holds (counted us) us := ⟨rfl, by simp [counted]⟩

omit [BEq ι] in
theorem counted_append (us : List (ι × Option Bytes)) (o : ι) (v : Option Bytes) :
    counted (us ++ [(o, v)]) =
      ⟨(counted us).used ++ [o], (counted us).values ++ (v.map (o, ·)).toList, none⟩ := by
  cases v <;> simp [counted]

section Use

variable [LawfulBEq ι]

theorem use_fits (us : List (ι × Option Bytes)) (o : ι) (v : Option Bytes) (hv : g.Fits o v)
    (ho : o ∉ us.map (·.1)) : g.use (counted us) o v = (counted (us ++ [(o, v)]), none) := by
  have he : (counted us).used.elem o = false := by simpa [counted] using ho
  rw [counted_append]
  cases v with
  | none =>
    have hk : (g.spec o).kind = .switch := hv
    simp only [use, hk, he, Bool.false_eq_true, if_false]
    simp [Progress.count, counted]
  | some v =>
    obtain ⟨hk, hf⟩ := hv
    obtain ⟨letter, metavar, default, choices, hk⟩ := Kind.exists_of_isValue _ hk
    simp only [use, hk, he, Bool.false_eq_true, if_false, hf]
    simp [Progress.count, counted]

theorem use_cases (us : List (ι × Option Bytes)) (o : ι) (v : Option Bytes)
    (hk : (g.spec o).kind.isValue = true ∨ (g.spec o).kind = .switch ∧ v = none) :
    g.Fits o v ∧ o ∉ us.map (·.1) ∨ ∃ f, (g.use (counted us) o v).2 = some f := by
  obtain hk | ⟨hk, rfl⟩ := hk
  · obtain ⟨letter, metavar, default, choices, hv⟩ := Kind.exists_of_isValue _ hk
    cases v with
    | none => exact .inr ⟨.valueMissing o, by simp only [use, hv]⟩
    | some v =>
      by_cases ho : o ∈ us.map (·.1)
      · have he : (counted us).used.elem o = true := by simpa [counted] using ho
        exact .inr ⟨.repeated o, by simp only [use, hv, he, if_true]⟩
      · have he : (counted us).used.elem o = false := by simpa [counted] using ho
        cases hf : g.valueFault? o v with
        | none => exact .inl ⟨⟨hk, hf⟩, ho⟩
        | some f => exact .inr ⟨f, by simp only [use, hv, he, Bool.false_eq_true, if_false, hf]⟩
  · by_cases ho : o ∈ us.map (·.1)
    · have he : (counted us).used.elem o = true := by simpa [counted] using ho
      exact .inr ⟨.repeated o, by simp only [use, hk, he, if_true]⟩
    · exact .inl ⟨hk, ho⟩

theorem settleThenUse_fits (p : Progress ι) (us : List (ι × Option Bytes)) (o : ι) (v : Option Bytes)
    (hp : g.Holds p us) (hv : g.Fits o v) (ho : o ∉ us.map (·.1)) :
    g.settleThenUse p o v = .ok (counted (us ++ [(o, v)])) := by
  simp only [settleThenUse, hp.settled, g.use_fits us o v hv ho]

theorem settleThenUse_cases (p : Progress ι) (us : List (ι × Option Bytes)) (o : ι) (v : Option Bytes)
    (hp : g.Holds p us) (hk : (g.spec o).kind.isValue = true ∨ (g.spec o).kind = .switch ∧ v = none) :
    g.Fits o v ∧ o ∉ us.map (·.1) ∨ ∃ f, g.settleThenUse p o v = .error f := by
  obtain hv | ⟨f, hf⟩ := g.use_cases us o v hk
  · exact .inl hv
  · right
    cases hu : g.use (counted us) o v with
    | mk q fault =>
      rw [hu] at hf
      cases hf
      exact ⟨f, by simp only [settleThenUse, hp.settled, hu]⟩

omit [LawfulBEq ι] in
theorem settleThenAwait_holds (p : Progress ι) (us : List (ι × Option Bytes)) (o : ι) (hp : g.Holds p us) :
    g.settleThenAwait p o = .ok { counted us with pending := some ⟨o, none⟩ } := by
  simp only [settleThenAwait, hp.settled]

omit [LawfulBEq ι] in
theorem settleThenInform_holds (p : Progress ι) (us : List (ι × Option Bytes)) (i : Info) (hp : g.Holds p us) :
    g.settleThenInform p i = .info i := by
  simp only [settleThenInform, hp.settled]

/-- A value in a token of its own counts later, as it would have counted at once. -/
theorem holds_pending (us : List (ι × Option Bytes)) (o : ι) (x : Bytes) (hv : g.Fits o (some x))
    (ho : o ∉ us.map (·.1)) : g.Holds { counted us with pending := some ⟨o, some x⟩ } (us ++ [(o, some x)]) :=
  ⟨g.use_fits us o (some x) hv ho, by simp⟩

end Use

section Tokens

variable (hg : g.Clear) (p : Progress ι)

include hg

theorem readToken_await_long (o : ι) (hk : (g.spec o).kind.isValue = true) :
    g.readToken p (g.longToken o) = .ofExcept (g.settleThenAwait p o) := by
  obtain ⟨letter, metavar, default, choices, hk⟩ := Kind.exists_of_isValue _ hk
  rw [g.readToken_longToken hg]
  simp only [readLong, g.byLong?_long hg, hk]

theorem readToken_use_long (o : ι) (v : Bytes) (hk : (g.spec o).kind.isValue = true) :
    g.readToken p (g.longToken o ++ equalsSign :: v) = .ofExcept (g.settleThenUse p o (some v)) := by
  obtain ⟨letter, metavar, default, choices, hk⟩ := Kind.exists_of_isValue _ hk
  rw [g.readToken_longValue hg]
  simp only [readLong, g.byLong?_long hg, hk]

theorem readToken_switch (o : ι) (hk : (g.spec o).kind = .switch) :
    g.readToken p (g.longToken o) = .ofExcept (g.settleThenUse p o none) := by
  rw [g.readToken_longToken hg]
  simp only [readLong, g.byLong?_long hg, hk]

theorem readToken_await_letter (o : ι) (c : Char) (hk : (g.spec o).kind.isValue = true)
    (hc : (g.spec o).letter? = some c) : g.readToken p (letterToken c) = .ofExcept (g.settleThenAwait p o) := by
  obtain ⟨letter, metavar, default, choices, hk⟩ := Kind.exists_of_isValue _ hk
  have hf := firstChar?_utf8EncodeChar c []
  rw [List.append_nil] at hf
  have hr := g.readToken_letterToken hg p o c [] hc
  rw [List.append_nil, List.append_nil] at hr
  rw [hr]
  simp only [readLetters, hf, g.byLetter?_letter hg o c hc, hk]

theorem readToken_use_letter (o : ι) (c : Char) (b : UInt8) (v : Bytes) (hk : (g.spec o).kind.isValue = true)
    (hc : (g.spec o).letter? = some c) :
    g.readToken p (letterToken c ++ b :: v) =
      .ofExcept (g.settleThenUse p o (some (if b == equalsSign then v else b :: v))) := by
  obtain ⟨letter, metavar, default, choices, hk⟩ := Kind.exists_of_isValue _ hk
  rw [g.readToken_letterToken hg p o c _ hc]
  simp only [readLetters, firstChar?_utf8EncodeChar, g.byLetter?_letter hg o c hc, hk]

theorem readToken_asks (i : Info) (t : Bytes) (h : g.Asks i t) :
    g.readToken p t = .finished (g.settleThenInform p i) := by
  cases h with
  | help o hk =>
    rw [g.readToken_longToken hg]
    simp only [readLong, g.byLong?_long hg, hk]
  | version o hk =>
    rw [g.readToken_longToken hg]
    simp only [readLong, g.byLong?_long hg, hk]
  | helpLetter o rest hk =>
    have hc : (g.spec o).letter? = some 'h' := by simp only [Spec.letter?, hk]
    rw [g.readToken_letterToken hg p o 'h' _ hc]
    simp only [readLetters, firstChar?_utf8EncodeChar, g.byLetter?_letter hg o 'h' hc, hk]
  | versionLetter o rest hk =>
    have hc : (g.spec o).letter? = some 'V' := by simp only [Spec.letter?, hk]
    rw [g.readToken_letterToken hg p o 'V' _ hc]
    simp only [readLetters, firstChar?_utf8EncodeChar, g.byLetter?_letter hg o 'V' hc, hk]

omit p in
theorem role (t : Bytes) : g.Role t := by
  cases g.shape t with
  | plain h => exact .plain h
  | dashes => exact .dashes
  | unknown h => exact .unknown h
  | long o =>
    cases hk : (g.spec o).kind with
    | switch => exact .use (.inr ⟨hk, rfl⟩) (fun hv => .switch hv) fun p => g.readToken_switch hg p o hk
    | value letter metavar default choices =>
      have hv : (g.spec o).kind.isValue = true := by rw [hk]; rfl
      exact .await hv (fun x hx hp => .longApart hx hp) fun p => g.readToken_await_long hg p o hv
    | help => exact .asks (.help o hk)
    | version => exact .asks (.version o hk)
  | longValue o v =>
    by_cases hv : (g.spec o).kind.isValue = true
    · exact .use (.inl hv) (fun hx => .longJoined hx) fun p => g.readToken_use_long hg p o v hv
    · refine .unknown fun p => ⟨.unwantedValue (lossy v) o (p.used != []), ?_⟩
      rw [g.readToken_longValue hg]
      cases hk : (g.spec o).kind with
      | value letter metavar default choices =>
        rw [hk] at hv
        exact absurd rfl hv
      | switch => simp only [readLong, g.byLong?_long hg, hk]
      | help => simp only [readLong, g.byLong?_long hg, hk]
      | version => simp only [readLong, g.byLong?_long hg, hk]
  | letters o c rest hc =>
    cases hk : (g.spec o).kind with
    | switch => simp [Spec.letter?, hk] at hc
    | help =>
      simp only [Spec.letter?, hk, Option.some.injEq] at hc
      subst hc
      exact .asks (.helpLetter o rest hk)
    | version =>
      simp only [Spec.letter?, hk, Option.some.injEq] at hc
      subst hc
      exact .asks (.versionLetter o rest hk)
    | value letter metavar default choices =>
      have hv : (g.spec o).kind.isValue = true := by rw [hk]; rfl
      cases rest with
      | nil =>
        rw [List.append_nil]
        exact .await hv (fun x hx hp => .letterApart hx hc hp) fun p => g.readToken_await_letter hg p o c hv hc
      | cons b v =>
        by_cases hb : b = equalsSign
        · subst hb
          refine .use (.inl hv) (fun hx => .letterEquals hx hc) fun p => ?_
          simpa using g.readToken_use_letter hg p o c equalsSign v hv hc
        · refine .use (.inl hv) (fun hx => .letterJoined hx hc hb) fun p => ?_
          simpa [hb] using g.readToken_use_letter hg p o c b v hv hc

end Tokens

section Scan

theorem scanFrom_cons (p : Progress ι) (t : Bytes) (ts : List Bytes) :
    g.scanFrom p (t :: ts) =
      match g.readToken p t with
      | .goesOn p' => g.scanFrom p' ts
      | .finished r => r
      | .optionsEnd =>
        match ts with
        | [] => g.finish p
        | x :: _ => .refused (.unexpected (lossy x) none []) := rfl

variable [LawfulBEq ι]

theorem scanFrom_use (p : Progress ι) (us : List (ι × Option Bytes)) (o : ι) (v : Option Bytes) (t : Bytes)
    (rest : List Bytes) (hr : g.readToken p t = .ofExcept (g.settleThenUse p o v)) (hp : g.Holds p us)
    (hv : g.Fits o v) (ho : o ∉ us.map (·.1)) :
    g.scanFrom p (t :: rest) = g.scanFrom (counted (us ++ [(o, v)])) rest := by
  rw [scanFrom_cons, hr, g.settleThenUse_fits p us o v hp hv ho]
  rfl

omit [LawfulBEq ι] in
theorem scanFrom_await (p : Progress ι) (us : List (ι × Option Bytes)) (o : ι) (t : Bytes) (rest : List Bytes)
    (hr : g.readToken p t = .ofExcept (g.settleThenAwait p o)) (hp : g.Holds p us) :
    g.scanFrom p (t :: rest) = g.scanFrom { counted us with pending := some ⟨o, none⟩ } rest := by
  rw [scanFrom_cons, hr, g.settleThenAwait_holds p us o hp]
  rfl

omit [LawfulBEq ι] in
theorem scanFrom_awaited (p : Progress ι) (o : ι) (x : Bytes) (rest : List Bytes) (hx : IsPlain x) :
    g.scanFrom { p with pending := some ⟨o, none⟩ } (x :: rest) =
      g.scanFrom { p with pending := some ⟨o, some x⟩ } rest := by
  rw [scanFrom_cons, g.readToken_plain _ x hx]
  rfl

theorem scanFrom_written (hg : g.Clear) (p : Progress ι) (us : List (ι × Option Bytes)) (o : ι) (v : Option Bytes)
    (ts rest : List Bytes) (h : g.Written o v ts) (hp : g.Holds p us) (ho : o ∉ us.map (·.1)) :
    ∃ p', g.Holds p' (us ++ [(o, v)]) ∧ g.scanFrom p (ts ++ rest) = g.scanFrom p' rest := by
  cases h with
  | switch hv =>
    exact ⟨_, g.holds_counted _, g.scanFrom_use p us o none _ rest (g.readToken_switch hg p o hv) hp hv ho⟩
  | longJoined hv =>
    exact ⟨_, g.holds_counted _, g.scanFrom_use p us o _ _ rest (g.readToken_use_long hg p o _ hv.1) hp hv ho⟩
  | @letterJoined b v c hv hc hb =>
    have hr := g.readToken_use_letter hg p o c b v hv.1 hc
    simp only [beq_eq_false_iff_ne.2 hb, Bool.false_eq_true, if_false] at hr
    exact ⟨_, g.holds_counted _, g.scanFrom_use p us o _ _ rest hr hp hv ho⟩
  | @letterEquals v c hv hc =>
    have hr := g.readToken_use_letter hg p o c equalsSign v hv.1 hc
    simp only [beq_self_eq_true, if_true] at hr
    exact ⟨_, g.holds_counted _, g.scanFrom_use p us o _ _ rest hr hp hv ho⟩
  | longApart hv hx =>
    refine ⟨_, g.holds_pending us o _ hv ho, ?_⟩
    rw [List.cons_append, g.scanFrom_await p us o _ _ (g.readToken_await_long hg p o hv.1) hp]
    exact g.scanFrom_awaited (counted us) o _ rest hx
  | letterApart hv hc hx =>
    refine ⟨_, g.holds_pending us o _ hv ho, ?_⟩
    rw [List.cons_append, g.scanFrom_await p us o _ _ (g.readToken_await_letter hg p o _ hv.1 hc) hp]
    exact g.scanFrom_awaited (counted us) o _ rest hx

omit [LawfulBEq ι] in
theorem finish_holds (p : Progress ι) (us : List (ι × Option Bytes)) (hp : g.Holds p us) :
    g.finish p = .accepted (counted us).used (counted us).values := by
  simp only [finish, hp.settled]

theorem scanFrom_of_reads (hg : g.Clear) (us : List (ι × Option Bytes)) (ts : List Bytes) (r : Reading ι)
    (h : g.Reads us ts r) (p : Progress ι) (hp : g.Holds p us) : g.scanFrom p ts = r := by
  induction h generalizing p with
  | done us => exact g.finish_holds p us hp
  | dashes us =>
    rw [scanFrom_cons, g.readToken_dashes]
    exact g.finish_holds p us hp
  | asks rest h =>
    rw [scanFrom_cons, g.readToken_asks hg p _ _ h]
    exact g.settleThenInform_holds p _ _ hp
  | use h ho hr ih =>
    obtain ⟨p', hp', hs⟩ := g.scanFrom_written hg p _ _ _ _ _ h hp ho
    rw [hs]
    exact ih p' hp'

omit [BEq ι] [LawfulBEq ι] in
theorem readPlain_refused (p : Progress ι) (t : Bytes) (h : ∀ o, p.pending ≠ some ⟨o, none⟩) :
    readPlain p t = .finished (.refused (.unexpected (lossy t) none [])) := by
  unfold readPlain
  split
  next o hp => exact absurd hp (h o)
  · rfl

omit [LawfulBEq ι] in
theorem refused_of_stuck (hg : g.Clear) (p : Progress ι) (f : Fault ι) (ts : List Bytes) (hs : (g.settle p).2 = some f)
    (hw : ∀ t ∈ ts.head?, IsPlain t → ∀ o, p.pending ≠ some ⟨o, none⟩) : ∃ f', g.scanFrom p ts = .refused f' := by
  cases hq : g.settle p with
  | mk q fault =>
  rw [hq] at hs
  cases hs
  have hend : g.finish p = .refused f := by simp only [finish, hq]
  cases ts with
  | nil => exact ⟨f, hend⟩
  | cons t rest =>
    cases g.role hg t with
    | plain ht =>
      -- The only plain token that is not refused is one that is awaited, and `hw` excludes that.
      have hr := (g.readToken_plain p t ht).trans (readPlain_refused p t (hw t rfl ht))
      exact ⟨.unexpected (lossy t) none [], by rw [scanFrom_cons, hr]⟩
    | dashes =>
      rw [scanFrom_cons, g.readToken_dashes]
      cases rest with
      | nil => exact ⟨f, hend⟩
      | cons x rest => exact ⟨_, rfl⟩
    | use hk hv hr =>
      rw [scanFrom_cons, hr p]
      exact ⟨f, by simp only [settleThenUse, hq, Turn.ofExcept]⟩
    | await hk hv hr =>
      rw [scanFrom_cons, hr p]
      exact ⟨f, by simp only [settleThenAwait, hq, Turn.ofExcept]⟩
    | asks h =>
      rw [scanFrom_cons, g.readToken_asks hg p _ t h]
      exact ⟨f, by simp only [settleThenInform, hq]⟩
    | unknown h =>
      obtain ⟨f', hf'⟩ := h p
      exact ⟨f', by rw [scanFrom_cons, hf']⟩

omit [LawfulBEq ι] in
theorem settle_awaiting (us : List (ι × Option Bytes)) (o : ι) (hk : (g.spec o).kind.isValue = true) :
    (g.settle { counted us with pending := some ⟨o, none⟩ }).2 = some (.valueMissing o) := by
  obtain ⟨letter, metavar, default, choices, hk⟩ := Kind.exists_of_isValue _ hk
  simp only [settle, use, hk]

theorem reads_or_refused (hg : g.Clear) (ts : List Bytes) (us : List (ι × Option Bytes)) (p : Progress ι)
    (hp : g.Holds p us) : (∃ r, g.Reads us ts r) ∨ ∃ f, g.scanFrom p ts = .refused f := by
  -- A value apart takes two tokens at once, hence the induction on the length.
  induction hn : ts.length using Nat.strongRecOn generalizing ts us p with
  | ind n ih =>
  cases ts with
  | nil => exact .inl ⟨_, .done us⟩
  | cons t rest =>
    cases g.role hg t with
    | plain ht =>
      have hr := (g.readToken_plain p t ht).trans (readPlain_refused p t hp.not_awaiting)
      exact .inr ⟨.unexpected (lossy t) none [], by rw [scanFrom_cons, hr]⟩
    | dashes =>
      cases rest with
      | nil => exact .inl ⟨_, .dashes us⟩
      | cons x rest => exact .inr ⟨_, rfl⟩
    | @use _ o v hk hw hr =>
      obtain ⟨hv, ho⟩ | ⟨f, hf⟩ := g.settleThenUse_cases p us o v hp hk
      · obtain ⟨r, hreads⟩ | ⟨f, hf⟩ := ih rest.length (by simp [← hn]) rest _ _ (g.holds_counted (us ++ [(o, v)])) rfl
        · exact .inl ⟨r, .use (hw hv) ho hreads⟩
        · exact .inr ⟨f, by rw [g.scanFrom_use p us o v t rest (hr p) hp hv ho, hf]⟩
      · exact .inr ⟨f, by rw [scanFrom_cons, hr p, hf]; rfl⟩
    | @await _ o hk hw hr =>
      rw [g.scanFrom_await p us o t rest (hr p) hp]
      have hmissing := g.settle_awaiting us o hk
      cases rest with
      | nil => exact .inr (g.refused_of_stuck hg _ _ [] hmissing (by simp))
      | cons x rest =>
        by_cases hx : IsPlain x
        · rw [g.scanFrom_awaited (counted us) o x rest hx]
          obtain ⟨hv, ho⟩ | ⟨f, hf⟩ := g.use_cases us o (some x) (.inl hk)
          · have hp' := g.holds_pending us o x hv ho
            have hlt : rest.length < n := by
              rw [← hn, List.length_cons, List.length_cons]
              omega
            obtain ⟨r, hreads⟩ | hf := ih rest.length hlt rest _ _ hp' rfl
            · exact .inl ⟨r, .use (hw x hv hx) ho hreads⟩
            · exact .inr hf
          · exact .inr (g.refused_of_stuck hg _ f rest hf (by simp))
        · refine .inr (g.refused_of_stuck hg _ _ (x :: rest) hmissing ?_)
          rintro t ht hplain
          cases ht
          exact absurd hplain hx
    | asks h => exact .inl ⟨_, .asks rest h⟩
    | unknown h =>
      obtain ⟨f, hf⟩ := h p
      exact .inr ⟨f, by rw [scanFrom_cons, hf]⟩

/-- Scanning a whole command line reads it, or refuses it. -/
theorem scan_eq_iff (hg : g.Clear) (ts : List Bytes) (r : Reading ι) (hr : ∀ f, r ≠ .refused f) :
    g.scan ts = r ↔ g.Reads [] ts r := by
  have hstart : g.Holds .start [] := g.holds_counted []
  constructor
  · intro h
    obtain ⟨r', hreads⟩ | ⟨f, hf⟩ := g.reads_or_refused hg ts [] .start hstart
    · have hscan := g.scanFrom_of_reads hg [] ts r' hreads .start hstart
      have heq : r' = r := hscan.symm.trans h
      exact heq ▸ hreads
    · exact absurd (h.symm.trans hf) (hr f)
  · intro h
    exact g.scanFrom_of_reads hg [] ts r h .start hstart

end Scan

end Grammar

end Slipway.CommandLine
