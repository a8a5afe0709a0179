import Slipway.Log.Filter
import Slipway.Text.Quoted
set_option autoImplicit false

namespace Slipway.Log

structure Event where
  level : Level
  target : Text
  message : Text
  fields : List (Text × Text)

namespace Event

def sanitized (c : Char) : Text :=
  let n := c.toNat
  if n == 0x1b || n == 0x07 || n == 0x08 || n == 0x0c || n == 0x7f then
    "\\x".toList ++ [Nat.digitChar (n / 16), Nat.digitChar (n % 16)]
  else if 0x80 ≤ n && n ≤ 0x9f then "\\u".toList ++ ['\x7b'] ++ hexText n ++ ['\x7d']
  else [c]

/-- A line of the log, less the time of day: level, message, fields. -/
def line (e : Event) : Text :=
  e.level.name ++ [' '] ++ e.message.flatMap sanitized ++
    e.fields.flatMap (fun f => ' ' :: f.1 ++ '=' :: f.2) ++ ['\n']

def passes (f : Filter) (e : Event) : Bool :=
  f.allows e.level e.target ("message".toList :: e.fields.map (·.1))

end Event

end Slipway.Log
