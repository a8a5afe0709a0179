import Slipway.Text.Blank
import Slipway.Text.Utf8
set_option autoImplicit false

/-!
The logical lines of a variables file.  A line goes on over a line break that stands inside quotes or follows a
blank; it is cut at a `#` that follows exactly one blank, and it counts as empty when it begins with one, even
in the middle of a quoted stretch.
-/

namespace Slipway.DotEnv

/-- Why a file is given up.  For a malformed line: the text under examination and where in it the trouble is. -/
inductive Trouble
  | malformed (text : Text) (index : Nat)
  | notText
deriving DecidableEq

inductive Quoting
  | plain
  | blank
  | escape
  | strong
  | strongEscape
  | weak
  | weakEscape
deriving DecidableEq

namespace Quoting

def opening (c : Char) : Quoting :=
  if c == '\\' then .escape else if c == '\x22' then .weak else if c == '\x27' then .strong else .plain

def next : Quoting → Char → Quoting
  | .plain, c => if isBlank c && c != '\n' && c != '\r' then .blank else opening c
  | .blank, c => opening c
  | .escape, _ => .plain
  | .weak, c => if c == '\\' then .weakEscape else if c == '\x22' then .plain else .weak
  | .weakEscape, _ => .weak
  | .strong, c => if c == '\\' then .strongEscape else if c == '\x27' then .plain else .strong
  | .strongEscape, _ => .strong

/-- Follows the quotes through a stretch.  Up to a comment, or to the end and then with the state there. -/
def through : Quoting → Text → Text × Option Quoting
  | q, [] => ([], some q)
  | q, c :: cs =>
    if q = .blank && c == '#' then ([], none)
    else
      let (kept, last) := through (q.next c) cs
      (c :: kept, last)

end Quoting

def physicalLines : Bytes → List Bytes
  | [] => []
  | b :: bs =>
    if b == 0x0A then [b] :: physicalLines bs
    else match physicalLines bs with
      | [] => [[b]]
      | l :: ls => (b :: l) :: ls

def chomp (t : Text) : Text :=
  match t.reverse with
  | '\n' :: '\r' :: rest => rest.reverse
  | '\n' :: rest => rest.reverse
  | _ => t

/-- The logical lines, given the part of one that has been read and the quoting it is in. -/
def logicalFrom : Text → Quoting → List (Option Text) → List (Except Trouble Text)
  | read, q, [] => if q = .plain then [] else [.error (.malformed read (utf8 read).length)]
  | _, _, none :: _ => [.error .notText]
  | read, q, some l :: ls =>
    if (trimStart (read ++ l)).head? = some '#' then .ok [] :: logicalFrom [] .plain ls
    else match q.through l with
      | (kept, none) => .ok (read ++ kept) :: logicalFrom [] .plain ls
      | (_, some .plain) => .ok (chomp (read ++ l)) :: logicalFrom [] .plain ls
      | (_, some q') => logicalFrom (read ++ l) q' ls

def byteOrderMark : Bytes := [0xEF, 0xBB, 0xBF]

def withoutMark (bs : Bytes) : Bytes := if byteOrderMark.isPrefixOf bs then bs.drop 3 else bs

/-- Everything from the first trouble on is left out. -/
def logicalLines (content : Bytes) : List (Except Trouble Text) :=
  logicalFrom [] .plain ((physicalLines (withoutMark content)).map decode?)

end Slipway.DotEnv
