import Slipway.DotEnv.Load
import Slipway.Settings
set_option autoImplicit false

namespace Slipway.Settings

def logTarget : Text := "fofimon_tools::config".toList

def optionText : Option Text → Text
  | some t => "Some(".toList ++ quoted t ++ ")".toList
  | none => "None".toList

def boolText (b : Bool) : Text := if b then "true".toList else "false".toList

def shown (s : Settings) : Text :=
  "Config \x7b source_dir: ".toList ++ quotedPath s.projectRoot ++ ", make_options: ".toList ++
    optionText s.compileOptions ++ ", skip_preflight: ".toList ++ boolText s.skipToolCheck ++ " \x7d".toList

def complain (m : Machine) : Option DotEnv.Complaint → Machine
  | none => m
  | some c => m.emit ⟨.warn, logTarget, "ignoring unreadable .env: ".toList ++ c.message, []⟩

def read (base : Bytes) (m : Machine) : Except DotEnv.Crash (Settings × Machine) :=
  match DotEnv.load m with
  | .error c => .error c
  | .ok (m, complaint) =>
    let m := complain m complaint
    match m.env.texts with
    | .error b => .error (.notText b)
    | .ok vars =>
      let s := ofBindings vars base
      .ok (s, m.emit ⟨.debug, logTarget, "configuration loaded".toList, [("config".toList, s.shown)]⟩)

end Slipway.Settings
