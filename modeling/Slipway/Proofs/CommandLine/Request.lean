import Slipway.Proofs.CommandLine.Items
set_option autoImplicit false

namespace Slipway

open CommandLine

inductive InstallSetting
  | variant (v : BuildVariant)
  | tests (t : TestSetting)
  | destination (p : Bytes) (h : p ≠ [])
  | noSudo

inductive InstallItem
  | variant (v : BuildVariant) (s : Spelling)
  | tests (t : TestSetting) (s : Spelling)
  | destinationApart (p : Bytes) (h : p ≠ []) (hp : IsPlain p)
  | destinationJoined (p : Bytes) (h : p ≠ [])
  | noSudo

namespace InstallSetting

def option : InstallSetting → InstallOption
  | .variant _ => .variant
  | .tests _ => .tests
  | .destination .. => .destination
  | .noSudo => .noSudo

def value : InstallSetting → Option Bytes
  | .variant v => some (utf8 v.name)
  | .tests t => some (utf8 t.name)
  | .destination p _ => some p
  | .noSudo => none

def variant? : InstallSetting → Option BuildVariant
  | .variant v => some v
  | _ => none

def tests? : InstallSetting → Option TestSetting
  | .tests t => some t
  | _ => none

def destination? : InstallSetting → Option Bytes
  | .destination p _ => some p
  | _ => none

def isNoSudo : InstallSetting → Bool
  | .noSudo => true
  | _ => false

def request (base : Bytes) (settings : List InstallSetting) : InstallRequest where
  variant := (settings.findSome? variant?).getD InstallRequest.standard.variant
  tests := (settings.findSome? tests?).getD InstallRequest.standard.tests
  installRoot := ((settings.findSome? destination?).map (Path.absolute base)).getD InstallRequest.standard.installRoot
  withSudo := InstallRequest.standard.withSudo && !settings.any isNoSudo

end InstallSetting

namespace InstallItem

def setting : InstallItem → InstallSetting
  | .variant v _ => .variant v
  | .tests t _ => .tests t
  | .destinationApart p h _ => .destination p h
  | .destinationJoined p h => .destination p h
  | .noSudo => .noSudo

def option (i : InstallItem) : InstallOption := i.setting.option

def tokens : InstallItem → List Bytes
  | .variant v s => s.tokens "buildtype".toList 'b' (utf8 v.name)
  | .tests t s => s.tokens "tests".toList 't' (utf8 t.name)
  | .destinationApart p _ _ => [utf8 "--destdir".toList, p]
  | .destinationJoined p _ => [utf8 "--destdir=".toList ++ p]
  | .noSudo => [utf8 "--no-sudo".toList]

end InstallItem

inductive PackItem
  | onlyCli

def PackItem.option : PackItem → PackOption
  | .onlyCli => .onlyCli

def PackItem.tokens : PackItem → List Bytes
  | .onlyCli => [utf8 "--only-cli".toList]

namespace CommandLine

theorem clear_install : install.Clear where
  listed := by intro o; cases o <;> decide
  long_injective := by intro o o'; cases o <;> cases o' <;> decide
  long_ne_nil := by intro o; cases o <;> decide
  long_equals := by intro o; cases o <;> decide +kernel
  letter_injective := by intro o o'; cases o <;> cases o' <;> decide
  letter_ascii := by intro o c hc; cases o <;> cases hc <;> decide

theorem clear_pack : pack.Clear where
  listed := by intro o; cases o <;> decide
  long_injective := by intro o o'; cases o <;> cases o' <;> decide
  long_ne_nil := by intro o; cases o <;> decide
  long_equals := by intro o; cases o <;> decide +kernel
  letter_injective := by intro o o'; cases o <;> cases o' <;> decide
  letter_ascii := by intro o c hc; cases o <;> cases hc <;> decide

theorem fits_install (o : InstallOption) (v : Option Bytes) :
    install.Fits o v ↔ ∃ s : InstallSetting, s.option = o ∧ s.value = v := by
  constructor
  · intro h
    cases v with
    | none =>
      cases o with
      | noSudo => exact ⟨.noSudo, rfl, rfl⟩
      | variant | tests | destination | help | version => cases h
    | some v =>
      obtain ⟨hk, hv⟩ := h
      rw [install.valueFault?_eq_none] at hv
      cases o with
      | variant =>
        obtain ⟨-, hnil | ⟨c, hc, hw⟩⟩ := hv
        · cases hnil
        · obtain ⟨b, -, rfl⟩ := List.mem_map.1 hc
          exact ⟨.variant b, rfl, congrArg some hw⟩
      | tests =>
        obtain ⟨-, hnil | ⟨c, hc, hw⟩⟩ := hv
        · cases hnil
        · obtain ⟨b, -, rfl⟩ := List.mem_map.1 hc
          exact ⟨.tests b, rfl, congrArg some hw⟩
      | destination => exact ⟨.destination v hv.1, rfl, rfl⟩
      | noSudo | help | version => cases hk
  · rintro ⟨s, rfl, rfl⟩
    cases s with
    | variant b =>
      refine ⟨rfl, (install.valueFault?_eq_none _ _).2 ⟨?_, .inr ⟨⟨b.name, []⟩, ?_, rfl⟩⟩⟩
      · cases b <;> decide
      · exact List.mem_map.2 ⟨b, by cases b <;> decide, rfl⟩
    | tests t =>
      refine ⟨rfl, (install.valueFault?_eq_none _ _).2 ⟨?_, .inr ⟨⟨t.name, testRemark t⟩, ?_, rfl⟩⟩⟩
      · cases t <;> decide
      · exact List.mem_map.2 ⟨t, by cases t <;> decide, rfl⟩
    | destination p h => exact ⟨rfl, (install.valueFault?_eq_none _ _).2 ⟨h, .inl rfl⟩⟩
    | noSudo => rfl

theorem written_install (i : InstallItem) : install.Written i.setting.option i.setting.value i.tokens := by
  have hv := (fits_install i.setting.option i.setting.value).2 ⟨i.setting, rfl, rfl⟩
  cases i with
  | variant b s =>
    refine Grammar.written_spelling InstallOption.variant 'b' _ hv rfl (.inr ?_) ?_ s
    all_goals cases b <;> decide
  | tests t s =>
    refine Grammar.written_spelling InstallOption.tests 't' _ hv rfl (.inr ?_) ?_ s
    all_goals cases t <;> decide
  | destinationApart p h hp => exact .longApart hv hp
  | destinationJoined p h => exact .longJoined hv
  | noSudo => exact .switch hv

theorem exists_installItem (o : InstallOption) (v : Option Bytes) (ts : List Bytes) (h : install.Written o v ts) :
    ∃ i : InstallItem, (i.setting.option, i.setting.value) = (o, v) ∧ i.tokens = ts := by
  obtain ⟨s, rfl, rfl⟩ := (fits_install o v).1 h.fits
  cases s with
  | variant b =>
    obtain ⟨s, hs⟩ := Grammar.exists_spelling _ 'b' _ ts h rfl
    exact ⟨.variant b s, rfl, hs⟩
  | tests t =>
    obtain ⟨s, hs⟩ := Grammar.exists_spelling _ 't' _ ts h rfl
    exact ⟨.tests t s, rfl, hs⟩
  | destination p hne =>
    cases h with
    | longApart hv hp => exact ⟨.destinationApart p hne hp, rfl, rfl⟩
    | longJoined hv => exact ⟨.destinationJoined p hne, rfl, rfl⟩
    | letterApart hv hc hp => cases hc
    | letterJoined hv hc hb => cases hc
    | letterEquals hv hc => cases hc
  | noSudo =>
    cases h with
    | switch hv => exact ⟨.noSudo, rfl, rfl⟩

def wordedInstall : install.Worded InstallItem where
  use i := (i.setting.option, i.setting.value)
  tokens := InstallItem.tokens
  written := written_install
  complete := exists_installItem

def settingValues (settings : List InstallSetting) : List (InstallOption × Bytes) :=
  settings.filterMap fun s => s.value.map (s.option, ·)

theorem lookup_settingValues {β : Type} (o : InstallOption) (part : InstallSetting → Option β) (write : β → Bytes)
    (h : ∀ s : InstallSetting, (if o = s.option then s.value else none) = (part s).map write)
    (settings : List InstallSetting) :
    (settingValues settings).lookup o = (settings.findSome? part).map write := by
  induction settings with
  | nil => rfl
  | cons s settings ih =>
    have hs := h s
    by_cases ho : o = s.option
    · rw [if_pos ho] at hs
      cases hp : part s with
      | none => simpa [settingValues, hs, hp] using ih
      | some b => simp [settingValues, hs, hp, ho]
    · rw [if_neg ho, eq_comm, Option.map_eq_none_iff] at hs
      have hb : (o == s.option) = false := by simpa using ho
      cases hv : s.value with
      | none => simpa [settingValues, hs, hv] using ih
      | some b => simpa [settingValues, hs, hv, List.lookup_cons, hb] using ih

theorem elem_noSudo (settings : List InstallSetting) :
    (settings.map InstallSetting.option).elem .noSudo = settings.any InstallSetting.isNoSudo := by
  induction settings with
  | nil => rfl
  | cons s settings ih => cases s <;> first | exact ih | rfl

theorem absolute_defaultInstallRoot (base : Bytes) : Path.absolute base defaultInstallRoot = defaultInstallRoot := by
  have h : Path.components defaultInstallRoot = [.root, .name (utf8 "usr".toList), .name (utf8 "local".toList)] := by
    decide
  rw [Path.absolute, h]
  rfl

theorem installRequest_settings (base : Bytes) (settings : List InstallSetting) :
    installRequest base (settings.map InstallSetting.option) (settingValues settings) =
      InstallSetting.request base settings := by
  have hvariant := lookup_settingValues .variant InstallSetting.variant? (fun v => utf8 v.name)
    (by intro s; cases s <;> rfl) settings
  have htests := lookup_settingValues .tests InstallSetting.tests? (fun t => utf8 t.name)
    (by intro s; cases s <;> rfl) settings
  have hdestination := lookup_settingValues .destination InstallSetting.destination? id
    (by intro s; cases s <;> rfl) settings
  rw [Option.map_id, id] at hdestination
  unfold installRequest InstallSetting.request
  rw [hvariant, htests, hdestination, elem_noSudo]
  have hv : ∀ v : BuildVariant, BuildVariant.ofName? (utf8 v.name) = some v := by intro v; cases v <;> decide
  have ht : ∀ t : TestSetting, TestSetting.ofName? (utf8 t.name) = some t := by intro t; cases t <;> decide
  congr 1
  · cases settings.findSome? InstallSetting.variant? with
    | none => rfl
    | some v => simp [hv]
  · cases settings.findSome? InstallSetting.tests? with
    | none => rfl
    | some t => simp [ht]
  · cases settings.findSome? InstallSetting.destination? with
    | none => exact absolute_defaultInstallRoot base
    | some p => rfl

def wordedPack : pack.Worded PackItem where
  use i := (i.option, none)
  tokens := PackItem.tokens
  written := by
    intro i
    cases i
    exact .switch rfl
  complete := by
    intro o v ts h
    have hf := h.fits
    cases v with
    | none =>
      cases o with
      | onlyCli =>
        cases h with
        | switch hv => exact ⟨.onlyCli, rfl, rfl⟩
      | help | version => cases hf
    | some v =>
      obtain ⟨hk, -⟩ := hf
      cases o <;> cases hk

theorem findSome?_perm {α β κ : Type} (f : α → Option β) (key : α → κ)
    (hf : ∀ a b, (f a).isSome → (f b).isSome → key a = key b) {l l' : List α} (h : l.Perm l')
    (hn : (l.map key).Nodup) : l.findSome? f = l'.findSome? f := by
  induction h with
  | nil => rfl
  | cons x h ih =>
    rw [List.map_cons, List.nodup_cons] at hn
    simp only [List.findSome?_cons, ih hn.2]
  | swap x y l =>
    simp only [List.findSome?_cons]
    cases hy : f y with
    | none => rfl
    | some b =>
      cases hx : f x with
      | none => rfl
      | some a =>
        -- Two that both count would have the same key.
        have heq := hf y x (by simp [hy]) (by simp [hx])
        simp [heq] at hn
  | trans h h' ih ih' => exact (ih hn).trans (ih' ((h.map key).nodup_iff.1 hn))

end CommandLine

open CommandLine in
theorem InstallSetting.request_perm (base : Bytes) (l l' : List InstallSetting) (h : l.Perm l')
    (hn : (l.map InstallSetting.option).Nodup) : InstallSetting.request base l = InstallSetting.request base l' := by
  have hv := findSome?_perm variant? option (by intro a b; cases a <;> cases b <;> simp [variant?, option]) h hn
  have ht := findSome?_perm tests? option (by intro a b; cases a <;> cases b <;> simp [tests?, option]) h hn
  have hd := findSome?_perm destination? option (by intro a b; cases a <;> cases b <;> simp [destination?, option]) h hn
  have hs : l.any isNoSudo = l'.any isNoSudo := h.any_eq
  simp only [request, hv, ht, hd, hs]

namespace CommandLine

theorem readsItems_install (base name : Bytes) :
    ReadsItems (fun args => InstallRequest.parse base (name :: args)) InstallItem.option InstallItem.tokens
      (fun items => InstallSetting.request base (items.map InstallItem.setting)) := by
  refine wordedInstall.readsItems clear_install name (installRequest base) _ ?_ ?_
  · intro items
    rw [← installRequest_settings]
    congr 1
    · simp [Grammar.counted, wordedInstall, List.map_map, Function.comp_def]
    · simp [Grammar.counted, wordedInstall, settingValues, List.filterMap_map, Function.comp_def]
  · refine asksForText_iff install .help .version rfl rfl ?_ ?_
    all_goals
      intro o h
      cases o <;> first | rfl | cases h

theorem readsItems_pack (name : Bytes) :
    ReadsItems (fun args => PackRequest.parse (name :: args)) PackItem.option PackItem.tokens
      (fun items => ⟨!items.isEmpty⟩) := by
  refine wordedPack.readsItems clear_pack name (fun used _ => PackRequest.mk (used.elem .onlyCli)) _ ?_ ?_
  · intro items
    cases items with
    | nil => rfl
    | cons i items =>
      cases i
      rfl
  · refine asksForText_iff pack .help .version rfl rfl ?_ ?_
    all_goals
      intro o h
      cases o <;> first | rfl | cases h

end CommandLine

/-- Each command runs, informs and refuses as its items say; for the installing command neither the order of the items
nor their spelling matters. -/
theorem parse_readsItems (base name : Bytes) :
    ReadsItems (fun args => InstallRequest.parse base (name :: args)) InstallItem.option InstallItem.tokens
        (fun items => InstallSetting.request base (items.map InstallItem.setting)) ∧
      (∀ items items' : List InstallItem, (items.map InstallItem.option).Nodup →
        (items.map InstallItem.setting).Perm (items'.map InstallItem.setting) →
          InstallRequest.parse base (name :: items.flatMap InstallItem.tokens) =
            InstallRequest.parse base (name :: items'.flatMap InstallItem.tokens)) ∧
      ReadsItems (fun args => PackRequest.parse (name :: args)) PackItem.option PackItem.tokens
        (fun items => ⟨!items.isEmpty⟩) := by
  have hinstall := readsItems_install base name
  refine ⟨hinstall, ?_, readsItems_pack name⟩
  intro items items' hn hperm
  have hoption (l : List InstallItem) :
      l.map InstallItem.option = (l.map InstallItem.setting).map InstallSetting.option := by
    rw [List.map_map]
    rfl
  have hn' : (items'.map InstallItem.option).Nodup := by
    rw [hoption] at hn ⊢
    exact (hperm.map _).nodup_iff.1 hn
  have hsame := InstallSetting.request_perm base _ _ hperm (hoption items ▸ hn)
  have hruns := (hinstall.runs (items.flatMap InstallItem.tokens) _).2 ⟨items, hn, .inl rfl, rfl⟩
  have hruns' := (hinstall.runs (items'.flatMap InstallItem.tokens) _).2 ⟨items', hn', .inl rfl, rfl⟩
  exact hruns.trans (hsame ▸ hruns'.symm)

end Slipway
