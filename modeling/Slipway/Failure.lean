import Slipway.Cause
set_option autoImplicit false

namespace Slipway

inductive Failure
  | refusedArguments (diagnostic : Text)
  /-- A step's program ended with another code than 0; -1 stands for death by a signal. -/
  | stepFailed (name command : Text) (code : Int)
  | notStarted (program : Text) (cause : Cause)
  | atPath (path : Bytes) (cause : Cause)
  | toolMissing (tool package : Text)
deriving DecidableEq

namespace Failure

def message : Failure → Text
  | .refusedArguments diagnostic => diagnostic
  | .stepFailed name command code =>
    name ++ " step failed: '".toList ++ command ++ "' exited with code ".toList ++ intText code
  | .notStarted program cause => "failed to execute '".toList ++ program ++ "': ".toList ++ cause.message
  | .atPath path cause => lossy path ++ ": ".toList ++ cause.message
  | .toolMissing tool package =>
    "'".toList ++ tool ++ "' not found in PATH (install the '".toList ++ package ++ "' package)".toList

def cause? : Failure → Option Cause
  | .notStarted _ cause | .atPath _ cause => some cause
  | _ => none

/-- A failed step passes its own code on where an exit status can hold it. -/
def exitStatus : Failure → Int
  | .refusedArguments _ => 64
  | .toolMissing .. => 69
  | .notStarted .. => 71
  | .atPath .. => 74
  | .stepFailed _ _ code => if 1 ≤ code ∧ code ≤ 255 then code else 1

end Failure

end Slipway
