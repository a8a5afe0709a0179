import Slipway.OsError
import Slipway.Text.Quoted
set_option autoImplicit false

namespace Slipway

inductive Cause
  | os (e : OsError)
  | nulInPath
  | nulInArgument
  | noProjectRoot
  | notAProjectRoot
  | noParent
  | reported (text : Text)
  /-- A cause met at a path of the program's own making. -/
  | metAt (cause : Cause) (path : Bytes)
deriving DecidableEq

def Cause.message : Cause → Text
  | .os e => e.message
  | .nulInPath => "file name contained an unexpected NUL byte".toList
  | .nulInArgument => "nul byte found in provided data".toList
  | .noProjectRoot => "project root not found".toList
  | .notAProjectRoot =>
    "not a fofimon project root, run from the directory holding CMakeLists.txt".toList
  | .noParent => "project root has no parent directory to archive from".toList
  | .reported text => text
  | .metAt cause path => cause.message ++ " at path ".toList ++ quotedPath path

end Slipway
