import Slipway.Date
import Slipway.Failure
import Slipway.Path
import Slipway.Plan.Step
set_option autoImplicit false

/-!
The plan of an archive.  The archiver runs in the parent of the project root, so that the archive unpacks to a
single directory of the root's name.
-/

namespace Slipway

structure PackPlan where
  onlyCli : Bool
  omitted : List Text
  fileName : Text
  member : Bytes
  directory : Bytes
deriving DecidableEq

namespace PackPlan

def projectName : Text := "fofimon".toList

def buildDebris : List Text :=
  ["build*", "configure", "nbproject*", ".project", ".cproject", ".settings", "core"].map String.toList

def interfaceFiles : List Text := ["gui*", "icons*", "applications*", "LICENSE.3rdparty"].map String.toList

def neverArchived : List Text := [".git", "stuff", ".metadata", "core"].map String.toList

def omittedFor (onlyCli : Bool) : List Text :=
  firstOccurrences (buildDebris ++ (if onlyCli then interfaceFiles else []) ++ neverArchived)

def fileNameFor (project : Text) (d : Date) : Text := project ++ "-".toList ++ d.stamp ++ ".tar.gz".toList

def ofRoot (onlyCli : Bool) (root : Bytes) (project : Text) (d : Date) : Except Failure PackPlan :=
  match Path.split? root with
  | some (dir, .name n) =>
    if dir == [] then .error (.atPath root .noParent)
    else .ok ⟨onlyCli, omittedFor onlyCli, fileNameFor project d, n, dir⟩
  | _ => .error (.atPath root .noParent)

section OfRoot

variable {onlyCli : Bool} {root : Bytes} {project : Text} {d : Date} {p : PackPlan}

theorem ofRoot_eq_ok_iff :
    ofRoot onlyCli root project d = .ok p ↔ ∃ dir n, Path.split? root = some (dir, .name n) ∧ dir ≠ [] ∧
      p = ⟨onlyCli, omittedFor onlyCli, fileNameFor project d, n, dir⟩ := by
  unfold ofRoot
  split
  next dir n hs =>
    by_cases hdir : dir = []
    · simp [hs, hdir]
    · rw [if_neg (by simpa using hdir)]
      constructor
      · exact fun h => ⟨dir, n, hs, hdir, (Except.ok.inj h).symm⟩
      · rintro ⟨dir', n', hs', -, rfl⟩
        obtain ⟨rfl, hn⟩ := Prod.mk.inj (Option.some.inj (hs.symm.trans hs'))
        cases hn
        rfl
  next hno => simpa using fun dir n hs => absurd hs (hno dir n)

theorem eq_of_ofRoot_error {f : Failure} (h : ofRoot onlyCli root project d = .error f) : f = .atPath root .noParent := by
  unfold ofRoot at h
  split at h
  · split at h <;> cases h
    rfl
  · cases h
    rfl

end OfRoot

def step (p : PackPlan) : Step where
  name := "archive".toList
  argv :=
    ["tar".toList, "-zcf".toList, p.fileName, "-v".toList].map utf8 ++
      p.omitted.map (fun e => utf8 ("--exclude=".toList ++ e)) ++ [p.member]

def outputPath (p : PackPlan) : Bytes := Path.join p.directory (utf8 p.fileName)

end PackPlan

end Slipway
