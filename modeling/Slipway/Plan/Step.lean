import Slipway.Text.Utf8
set_option autoImplicit false

namespace Slipway

structure Step where
  name : Text
  argv : List Bytes
deriving DecidableEq

namespace Step

/-- The empty name when there is no argument at all. -/
def program (s : Step) : Bytes := s.argv.headD []

def args (s : Step) : List Bytes := s.argv.tail

/-- The command as it is echoed.  Arguments are not quoted, so this is for reading only. -/
def shown (s : Step) : Text := joinWith [' '] (s.argv.map lossy)

end Step

end Slipway
