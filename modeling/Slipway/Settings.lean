import Slipway.Path
import Slipway.Text.Blank
set_option autoImplicit false

namespace Slipway

structure Settings where
  projectRoot : Bytes
  compileOptions : Option Text
  skipToolCheck : Bool
deriving DecidableEq

namespace Settings

def projectRootVar : Text := "FOFIMON_SOURCE_DIR".toList
def compileOptionsVar : Text := "STMM_MAKE_OPTIONS".toList
def skipToolCheckVar : Text := "FOFIMON_SKIP_PREFLIGHT".toList

def lastBinding? (vars : List (Text × Text)) (name : Text) : Option Text := vars.reverse.lookup name

def nonBlank? (value : Option Text) : Option Text := value.filter fun v => !(trim v).isEmpty

def isAffirmative (v : Text) : Bool :=
  let word := (trim v).map Char.toLower
  word == "1".toList || word == "true".toList || word == "yes".toList

/-- A relative project root counts from `base`, which is also the root when none is given. -/
def ofBindings (vars : List (Text × Text)) (base : Bytes) : Settings where
  projectRoot :=
    match nonBlank? (lastBinding? vars projectRootVar) with
    | some v => Path.join base (utf8 v)
    | none => base
  compileOptions := nonBlank? (lastBinding? vars compileOptionsVar)
  skipToolCheck := ((lastBinding? vars skipToolCheckVar).map isAffirmative).getD false

def compileArgs (s : Settings) : List Text := (s.compileOptions.map words).getD []

end Settings

end Slipway
