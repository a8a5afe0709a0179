import Slipway.Proofs.CommandLine.Request
import Slipway.Proofs.Path.Lexical
set_option autoImplicit false

namespace Slipway

open CommandLine

namespace InstallSetting

variable {settings : List InstallSetting}

def chosenDestination (settings : List InstallSetting) : Bytes := (settings.findSome? destination?).getD defaultInstallRoot

theorem chosenDestination_ne_nil (settings : List InstallSetting) : chosenDestination settings ≠ [] := by
  unfold chosenDestination
  cases h : settings.findSome? destination? with
  | none => decide
  | some p =>
    obtain ⟨s, -, hs⟩ := List.exists_of_findSome?_eq_some h
    cases s with
    | destination q hq =>
      obtain rfl : q = p := Option.some.inj hs
      exact hq
    | variant | tests | noSudo => cases hs

theorem installRoot_request (base : Bytes) (settings : List InstallSetting) :
    (request base settings).installRoot = Path.absolute base (chosenDestination settings) := by
  unfold request chosenDestination
  cases settings.findSome? destination? with
  | none => exact (absolute_defaultInstallRoot base).symm
  | some p => rfl

end InstallSetting

namespace InstallRequest

variable {base : Bytes} {tokens : List Bytes} {r : InstallRequest}

theorem parse_tail (name : Bytes) (h : parse base tokens = .ok (.run r)) :
    parse base (name :: tokens.tail) = .ok (.run r) := by
  unfold parse CommandLine.parse at h ⊢
  rw [List.tail_cons]
  cases hs : install.scan tokens.tail with
  | accepted used values => simpa [hs] using h
  | info i => simp [hs] at h
  | refused f => simp [hs] at h

theorem parse_destination (base name : Bytes) {p : Bytes} (hne : p ≠ []) :
    parse base [name, utf8 "--destdir=".toList ++ p] = .ok (.run { standard with installRoot := Path.absolute base p }) :=
  ((readsItems_install base name).runs _ _).2 ⟨[.destinationJoined p hne], by simp, .inl rfl, rfl⟩

/-- The install root of a request is in normal form, and it is the lexical resolution of the destination that the items
set, or of the standard one, against the directory the command was started in.  Given as the destination it is the install
root again, wherever the command is started. -/
theorem installRoot_resolved (base : Bytes) (tokens : List Bytes) (r : InstallRequest) (hbase : Path.IsBase base)
    (h : parse base tokens = .ok (.run r)) :
    Path.IsNormal r.installRoot ∧
      (∃ items : List InstallItem, (items.map InstallItem.option).Nodup ∧
        (tokens.tail = items.flatMap InstallItem.tokens ∨
          tokens.tail = items.flatMap InstallItem.tokens ++ [dashes]) ∧
        r.installRoot = Path.lexical base (InstallSetting.chosenDestination (items.map InstallItem.setting))) ∧
      ∀ base' name, parse base' [name, utf8 "--destdir=".toList ++ r.installRoot] =
        .ok (.run { standard with installRoot := r.installRoot }) := by
  obtain ⟨items, hn, htokens, rfl⟩ := ((readsItems_install base []).runs tokens.tail r).1 (parse_tail [] h)
  have hroot := InstallSetting.installRoot_request base (items.map InstallItem.setting)
  rw [Path.absolute_eq_lexical hbase (InstallSetting.chosenDestination_ne_nil _)] at hroot
  refine ⟨hroot ▸ Path.isNormal_lexical _ _, ⟨items, hn, htokens, hroot⟩, fun base' name => ?_⟩
  rw [hroot, parse_destination base' name (by simp [Path.lexical, Path.ofNames]), Path.absolute_lexical]

theorem installRoot_resolved_aboveRoot :
    let tokens := ["install-fofimon", "--destdir", "../../a/.//b/../c/"].map fun t => utf8 t.toList
    let r : InstallRequest := { standard with installRoot := utf8 "/a/c".toList }
    Path.IsBase (utf8 "/w".toList) ∧ parse (utf8 "/w".toList) tokens = .ok (.run r) ∧ Path.IsNormal r.installRoot := by
  intro tokens r
  have hbase : Path.IsBase (utf8 "/w".toList) := ⟨by decide, by decide⟩
  have hparse : parse (utf8 "/w".toList) tokens = .ok (.run r) := rfl
  exact ⟨hbase, hparse, (installRoot_resolved _ tokens r hbase hparse).1⟩

end InstallRequest

end Slipway
