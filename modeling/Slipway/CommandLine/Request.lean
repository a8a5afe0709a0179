import Slipway.CommandLine.Help
import Slipway.Failure
import Slipway.Path.Absolute
set_option autoImplicit false

namespace Slipway

inductive BuildVariant
  | debug
  | release
  | minSizeRel
  | relWithDebInfo
deriving DecidableEq, Repr

inductive TestSetting
  | on
  | off
  /-- Keeps whatever the build directory was configured with. -/
  | cache
deriving DecidableEq, Repr

namespace BuildVariant

def all : List BuildVariant := [.debug, .release, .minSizeRel, .relWithDebInfo]

def name : BuildVariant → Text
  | .debug => "Debug".toList
  | .release => "Release".toList
  | .minSizeRel => "MinSizeRel".toList
  | .relWithDebInfo => "RelWithDebInfo".toList

def ofName? (n : Bytes) : Option BuildVariant := all.find? fun t => utf8 t.name == n

end BuildVariant

namespace TestSetting

def all : List TestSetting := [.on, .off, .cache]

def name : TestSetting → Text
  | .on => "On".toList
  | .off => "Off".toList
  | .cache => "Cache".toList

def ofName? (n : Bytes) : Option TestSetting := all.find? fun t => utf8 t.name == n

/-- The value of the configure step's directive; no directive is given to keep the previous one. -/
def directive? : TestSetting → Option Text
  | .on => some "ON".toList
  | .off => some "OFF".toList
  | .cache => none

end TestSetting

def defaultInstallRoot : Bytes := utf8 "/usr/local".toList

structure InstallRequest where
  variant : BuildVariant
  tests : TestSetting
  /-- Absolute and lexically resolved. -/
  installRoot : Bytes
  withSudo : Bool
deriving DecidableEq

def InstallRequest.standard : InstallRequest := ⟨.release, .cache, defaultInstallRoot, true⟩

structure PackRequest where
  /-- Leaves out the sources of the user interface, icons and launchers. -/
  onlyCli : Bool
deriving DecidableEq

inductive Invocation (α : Type)
  | run (request : α)
  | info (text : Text)

namespace CommandLine

inductive InstallOption
  | variant
  | tests
  | destination
  | noSudo
  | help
  | version
deriving DecidableEq, Repr

inductive PackOption
  | onlyCli
  | help
  | version
deriving DecidableEq, Repr

def testRemark : TestSetting → Text
  | .cache => "Keep whatever the existing build directory was configured with".toList
  | _ => []

def helpSpec : Spec := ⟨"help".toList, .help, "Print help".toList⟩

def versionSpec : Spec := ⟨"version".toList, .version, "Print version".toList⟩

def InstallOption.spec : InstallOption → Spec
  | .variant =>
    ⟨"buildtype".toList,
      .value (some 'b') "BUILDTYPE".toList "Release".toList (BuildVariant.all.map fun t => ⟨t.name, []⟩),
      "Build type".toList⟩
  | .tests =>
    ⟨"tests".toList,
      .value (some 't') "TESTS".toList "Cache".toList (TestSetting.all.map fun t => ⟨t.name, testRemark t⟩),
      "Build tests (Cache keeps the previous setting)".toList⟩
  | .destination =>
    ⟨"destdir".toList, .value none "DESTDIR".toList "/usr/local".toList [], "Install prefix".toList⟩
  | .noSudo => ⟨"no-sudo".toList, .switch, "Don't use sudo to install".toList⟩
  | .help => helpSpec
  | .version => versionSpec

def PackOption.spec : PackOption → Spec
  | .onlyCli => ⟨"only-cli".toList, .switch, "Only cli sources".toList⟩
  | .help => helpSpec
  | .version => versionSpec

def install : Grammar InstallOption where
  command := "install-fofimon".toList
  about := "Compiles and installs the fofimon application".toList
  all := [.variant, .tests, .destination, .noSudo, .help, .version]
  spec := InstallOption.spec

def pack : Grammar PackOption where
  command := "fofimon-sourcepackage".toList
  about := "Create source tar.gz".toList
  all := [.onlyCli, .help, .version]
  spec := PackOption.spec

def installRequest (base : Bytes) (used : List InstallOption) (values : List (InstallOption × Bytes)) :
    InstallRequest where
  variant := ((values.lookup .variant).bind BuildVariant.ofName?).getD .release
  tests := ((values.lookup .tests).bind TestSetting.ofName?).getD .cache
  installRoot := Path.absolute base ((values.lookup .destination).getD defaultInstallRoot)
  withSudo := !used.elem .noSudo

def parse {ι α : Type} [BEq ι] (g : Grammar ι) (request : List ι → List (ι × Bytes) → α) (tokens : List Bytes) :
    Except Failure (Invocation α) :=
  let name := calledBy g.command tokens
  match g.scan tokens.tail with
  | .accepted used values => .ok (.run (request used values))
  | .info i => .ok (.info (g.infoText name i))
  | .refused f => .error (.refusedArguments (trimEnd (g.diagnostic name f)))

end CommandLine

def InstallRequest.parse (base : Bytes) (tokens : List Bytes) : Except Failure (Invocation InstallRequest) :=
  CommandLine.parse CommandLine.install (CommandLine.installRequest base) tokens

def PackRequest.parse (tokens : List Bytes) : Except Failure (Invocation PackRequest) :=
  CommandLine.parse CommandLine.pack (fun used _ => ⟨used.elem .onlyCli⟩) tokens

end Slipway
