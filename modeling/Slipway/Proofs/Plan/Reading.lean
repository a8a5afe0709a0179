import Slipway.Plan.Install
import Slipway.Text.Utf8.RoundTrip
set_option autoImplicit false

/-!
The steps of a build say all that was asked for.  `InstallPlan.read?` reads request and compile arguments back from them
(`InstallPlan.ofRequest_read_back`).  It looks only at what the configuring program takes for definitions, and these are
the ones that were meant, whatever bytes the installation root has: an entry is the whole argument after `-D`, and its
value all that comes after the first equals sign.
-/

namespace Slipway

namespace InstallPlan

/-- An entry `NAME=value` or `NAME:TYPE=value`.  There are equals signs in a value, but not in a name or a type. -/
def readDefinition? (entry : Bytes) : Option (Bytes × Bytes) :=
  match entry.dropWhile (· != 0x3D) with
  | [] => none
  | _ :: value => some ((entry.takeWhile (· != 0x3D)).takeWhile (· != 0x3A), value)

def defineFlag : Bytes := utf8 "-D".toList

/-- The definitions among the arguments of the configuring program.  The entry is the argument after the flag, which is
not looked at for a flag of its own, or what is attached to the flag. -/
def definitions : List Bytes → List (Bytes × Bytes)
  | [] => []
  | a :: rest =>
    if a = defineFlag then
      match rest with
      | [] => []
      | entry :: rest => (readDefinition? entry).toList ++ definitions rest
    else if defineFlag.isPrefixOf a then (readDefinition? (a.drop defineFlag.length)).toList ++ definitions rest
    else definitions rest

def valuesOf (name : Text) (args : List Bytes) : List Bytes :=
  ((definitions args).filter fun d => d.1 == utf8 name).map Prod.snd

def readTests? (values : List Bytes) : Option TestSetting :=
  TestSetting.all.find? fun t => t.directive?.toList.map utf8 == values

def read? : List Step → Option (InstallRequest × List Text)
  | [configure, compile, install] =>
    match valuesOf "CMAKE_BUILD_TYPE".toList configure.args, valuesOf "CMAKE_INSTALL_PREFIX".toList configure.args with
    | [variant], [installRoot] => do
      let variant ← BuildVariant.ofName? variant
      let tests ← readTests? (valuesOf "BUILD_TESTING".toList configure.args)
      let compileArgs ← compile.args.mapM decode?
      return (⟨variant, tests, installRoot, install.program == utf8 "sudo".toList⟩, compileArgs)
    | _, _ => none
  | _ => none

section Entries

variable {name : Text} {value : Bytes} {rest : List Bytes}

def IsVariable (name : Text) : Prop := 0x3D ∉ utf8 name ∧ 0x3A ∉ utf8 name

instance (name : Text) : Decidable (IsVariable name) := inferInstanceAs (Decidable (_ ∧ _))

theorem readDefinition?_entry (h : IsVariable name) :
    readDefinition? (utf8 name ++ utf8 "=".toList ++ value) = some (utf8 name, value) := by
  have hname : ∀ b ∈ utf8 name, (b != 0x3D) = true := fun b hb => bne_iff_ne.2 fun he => h.1 (he ▸ hb)
  have huntyped : ∀ b ∈ utf8 name, (b != 0x3A) = true := fun b hb => bne_iff_ne.2 fun he => h.2 (he ▸ hb)
  have hequals : utf8 "=".toList ++ value = 0x3D :: value := rfl
  rw [readDefinition?, List.append_assoc, hequals, List.dropWhile_append_of_pos hname, List.takeWhile_append_of_pos hname,
    List.dropWhile_cons_of_neg (by decide), List.takeWhile_cons_of_neg (by decide), List.append_nil]
  have hwhole : (utf8 name ++ []).takeWhile (· != 0x3A) = utf8 name ++ [] := List.takeWhile_append_of_pos huntyped
  rw [List.append_nil] at hwhole
  simp only [hwhole]

theorem definitions_define (h : IsVariable name) :
    definitions (define name value ++ rest) = (utf8 name, value) :: definitions rest := by
  have hcons : define name value ++ rest = defineFlag :: (utf8 name ++ utf8 "=".toList ++ value) :: rest := rfl
  rw [hcons, definitions, if_pos rfl, readDefinition?_entry h]
  rfl

end Entries

theorem definitions_configure (r : InstallRequest) :
    definitions (configure r).args =
      (utf8 "CMAKE_BUILD_TYPE".toList, utf8 r.variant.name) ::
        (r.tests.directive?.toList.map fun v => (utf8 "BUILD_TESTING".toList, utf8 v)) ++
        [(utf8 "CMAKE_INSTALL_PREFIX".toList, r.installRoot)] := by
  have hparent : definitions [Path.dotDot] = [] := by decide
  have hroot : definitions (define "CMAKE_INSTALL_PREFIX".toList r.installRoot ++ [Path.dotDot]) =
      [(utf8 "CMAKE_INSTALL_PREFIX".toList, r.installRoot)] := by
    rw [definitions_define (by decide), hparent]
  unfold configure Step.args
  dsimp only
  -- The definition in the middle is the one that need not be there.
  cases r.tests.directive? with
  | none =>
    dsimp only
    rw [List.append_nil, List.append_assoc, List.append_assoc, List.singleton_append, List.tail_cons,
      definitions_define (by decide), hroot]
    rfl
  | some v =>
    dsimp only
    rw [List.append_assoc, List.append_assoc, List.append_assoc, List.singleton_append, List.tail_cons,
      definitions_define (by decide), definitions_define (by decide), hroot]
    rfl

section Values

variable (r : InstallRequest)

theorem valuesOf_variant : valuesOf "CMAKE_BUILD_TYPE".toList (configure r).args = [utf8 r.variant.name] := by
  rw [valuesOf, definitions_configure]
  cases r.tests <;> rfl

theorem valuesOf_tests :
    valuesOf "BUILD_TESTING".toList (configure r).args = r.tests.directive?.toList.map utf8 := by
  rw [valuesOf, definitions_configure]
  cases r.tests <;> rfl

theorem valuesOf_installRoot : valuesOf "CMAKE_INSTALL_PREFIX".toList (configure r).args = [r.installRoot] := by
  rw [valuesOf, definitions_configure]
  cases r.tests <;> rfl

end Values

theorem ofName?_name (v : BuildVariant) : BuildVariant.ofName? (utf8 v.name) = some v := by
  cases v <;> decide

theorem readTests?_directive (t : TestSetting) : readTests? (t.directive?.toList.map utf8) = some t := by
  cases t <;> decide

theorem mapM_decode?_utf8 (ts : List Text) : (ts.map utf8).mapM decode? = some ts := by
  induction ts with
  | nil => rfl
  | cons t ts ih => simp [ih]

theorem program_installStep (withSudo : Bool) :
    ((installStep withSudo).program == utf8 "sudo".toList) = withSudo := by
  cases withSudo <;> decide

theorem read?_ofRequest (r : InstallRequest) (root : Bytes) (args : List Text) :
    read? (ofRequest r root args).steps = some (r, args) := by
  have hargs : (compile args).args.mapM decode? = some args := mapM_decode?_utf8 args
  simp only [read?, ofRequest, valuesOf_variant, valuesOf_tests, valuesOf_installRoot, ofName?_name,
    readTests?_directive, hargs, program_installStep, Option.bind_eq_bind, Option.bind_some, Option.pure_def]

/-- A build's steps are read back as the request and the compile arguments that they were made from, so that other ones
have other steps; the project root has no say in them.  Each variable that is asked for is defined once, and the tests are
switched unless their setting is to be kept. -/
theorem ofRequest_read_back (r : InstallRequest) (root : Bytes) (args : List Text) :
    read? (ofRequest r root args).steps = some (r, args) ∧
    (∀ r' root' args', (ofRequest r root args).steps = (ofRequest r' root' args').steps ↔ r = r' ∧ args = args') ∧
    valuesOf "CMAKE_BUILD_TYPE".toList (configure r).args = [utf8 r.variant.name] ∧
    valuesOf "CMAKE_INSTALL_PREFIX".toList (configure r).args = [r.installRoot] ∧
    valuesOf "BUILD_TESTING".toList (configure r).args = r.tests.directive?.toList.map utf8 ∧
    (r.tests.directive? = none ↔ r.tests = .cache) := by
  refine ⟨read?_ofRequest r root args, fun r' root' args' => ⟨fun h => ?_, ?_⟩, valuesOf_variant r,
    valuesOf_installRoot r, valuesOf_tests r, ?_⟩
  · have hread := congrArg read? h
    rw [read?_ofRequest, read?_ofRequest] at hread
    exact Prod.mk.inj (Option.some.inj hread)
  · rintro ⟨rfl, rfl⟩
    rfl
  · cases r.tests <;> simp [TestSetting.directive?]

/-- An installation root that looks like other directives. -/
example : definitions (configure ⟨.debug, .cache, utf8 "/x=1 -D BUILD_TESTING=ON".toList, false⟩).args =
    [(utf8 "CMAKE_BUILD_TYPE".toList, utf8 "Debug".toList),
      (utf8 "CMAKE_INSTALL_PREFIX".toList, utf8 "/x=1 -D BUILD_TESTING=ON".toList)] := by decide

end InstallPlan

end Slipway
