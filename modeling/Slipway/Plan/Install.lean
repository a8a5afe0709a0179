import Slipway.CommandLine.Request
import Slipway.Plan.Step
set_option autoImplicit false

namespace Slipway

structure InstallPlan where
  directory : Bytes
  steps : List Step
deriving DecidableEq

namespace InstallPlan

def directoryName : Bytes := utf8 "build".toList

def define (name : Text) (value : Bytes) : List Bytes := [utf8 "-D".toList, utf8 name ++ utf8 "=".toList ++ value]

def configure (r : InstallRequest) : Step where
  name := "configure".toList
  argv :=
    [utf8 "cmake".toList] ++ define "CMAKE_BUILD_TYPE".toList (utf8 r.variant.name) ++
      (match r.tests.directive? with
        | some v => define "BUILD_TESTING".toList (utf8 v)
        | none => []) ++
      define "CMAKE_INSTALL_PREFIX".toList r.installRoot ++ [Path.dotDot]

def compile (compileArgs : List Text) : Step := ⟨"compile".toList, utf8 "make".toList :: compileArgs.map utf8⟩

def installStep (withSudo : Bool) : Step where
  name := "install".toList
  argv := (if withSudo then [utf8 "sudo".toList] else []) ++ [utf8 "make".toList, utf8 "install".toList]

def ofRequest (r : InstallRequest) (projectRoot : Bytes) (compileArgs : List Text) : InstallPlan where
  directory := Path.join projectRoot directoryName
  steps := [configure r, compile compileArgs, installStep r.withSudo]

end InstallPlan

end Slipway
