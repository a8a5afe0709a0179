import Slipway.Text.Utf8
set_option autoImplicit false

/-!
The words of shell scripts and the tokens a script's text is cut into.  A word is kept as its fragments, since what
it stands for is known only when it is used, and then quoted fragments are treated differently.
-/

namespace Slipway.Shell

inductive Parameter
  | positional (n : Nat)
  | joined
  | each
  | count
  | status
  | self
  | variable (name : Text)
deriving DecidableEq

inductive Fragment
  | literal (t : Text) (isQuoted : Bool)
  | value (p : Parameter) (isQuoted : Bool)
  | length (p : Parameter) (isQuoted : Bool)
  /-- The value, or the text given if that is empty. -/
  | valueOr (p : Parameter) (otherwise : Text) (isQuoted : Bool)
deriving DecidableEq

abbrev Word := List Fragment

inductive Stream
  | out
  | err
deriving DecidableEq

inductive Redirection
  | append (stream : Stream) (file : Word)
  | create (stream : Stream) (file : Word)
  | duplicate (stream source : Stream)
deriving DecidableEq

inductive Token
  | word (w : Word)
  | redirection (make : Redirection)
  | newline
  | semicolon
  | both
  | either
deriving DecidableEq

def isNameStart (c : Char) : Bool := c.isAlpha || c == '_'

def isNamePart (c : Char) : Bool := c.isAlphanum || c == '_'

def bracedParameter? (t : Text) : Option Parameter :=
  match t with
  | ['*'] => some .joined
  | ['@'] => some .each
  | ['#'] => some .count
  | ['?'] => some .status
  | ['$'] => some .self
  | c :: _ =>
    if t.all Char.isDigit then some (.positional (digitsValue t))
    else if isNameStart c && t.all isNamePart then some (.variable t)
    else none
  | [] => none

def isOrdinary (c : Char) : Bool := isNamePart c || c == '-' || c == '.' || c == '/' || c == ' '

/-- What stands between braces: `#` before a name asks for a length, `:-` behind it gives a text for want of a value. -/
def readBraced (isQuoted : Bool) (inner : Text) : Option Fragment :=
  match inner with
  | '#' :: name@(_ :: _) => (bracedParameter? name).map fun p => .length p isQuoted
  | _ =>
    match inner.dropWhile (· != ':') with
    | ':' :: '-' :: otherwise =>
      if otherwise.all isOrdinary then
        (bracedParameter? (inner.takeWhile (· != ':'))).map fun p => .valueOr p otherwise isQuoted
      else none
    | _ => (bracedParameter? inner).map fun p => .value p isQuoted

/-- What follows a dollar sign; without a parameter there the sign stands for itself. -/
def readParameter (isQuoted : Bool) (t : Text) : Option (Fragment × Text) :=
  match t with
  | '\x7b' :: rest =>
    match rest.dropWhile (· != '\x7d') with
    | [] => none
    | _ :: after => (readBraced isQuoted (rest.takeWhile (· != '\x7d'))).map fun f => (f, after)
  | c :: rest =>
    if isNameStart c then
      some (.value (.variable (t.takeWhile isNamePart)) isQuoted, t.dropWhile isNamePart)
    else match bracedParameter? [c] with
      | some p => some (.value p isQuoted, rest)
      | none => some (.literal ['$'] isQuoted, t)
  | [] => some (.literal ['$'] isQuoted, [])

def readWeak : Nat → Text → Word → Option (Word × Text)
  | 0, _, _ => none
  | _ + 1, [], _ => none
  | fuel + 1, c :: rest, w =>
    if c == '\x22' then some (w, rest)
    else if c == '$' then
      match readParameter true rest with
      | some (f, after) => readWeak fuel after (w ++ [f])
      | none => none
    else if c == '\\' then
      match rest with
      | d :: after =>
        if d == '\n' then readWeak fuel after w
        else if d == '$' || d == '\x22' || d == '\\' || d == '\x60' then
          readWeak fuel after (w ++ [.literal [d] true])
        else readWeak fuel after (w ++ [.literal [c, d] true])
      | [] => none
    else if c == '\x60' then none
    else readWeak fuel rest (w ++ [.literal [c] true])

def isDelimiter (c : Char) : Bool :=
  c == ' ' || c == '\t' || c == '\n' || c == ';' || c == '&' || c == '|' || c == '<' || c == '>' || c == '(' ||
    c == ')'

def readWord : Nat → Text → Word → Option (Word × Text)
  | 0, _, _ => none
  | _ + 1, [], w => some (w, [])
  | fuel + 1, c :: rest, w =>
    if isDelimiter c then some (w, c :: rest)
    else if c == '\x27' then
      match rest.dropWhile (· != '\x27') with
      | [] => none
      | _ :: after => readWord fuel after (w ++ [.literal (rest.takeWhile (· != '\x27')) true])
    else if c == '\x22' then
      match readWeak fuel rest (w ++ [.literal [] true]) with
      | some (w', after) => readWord fuel after w'
      | none => none
    else if c == '\\' then
      match rest with
      | d :: after => if d == '\n' then readWord fuel after w else readWord fuel after (w ++ [.literal [d] true])
      | [] => some (w ++ [.literal [c] true], [])
    else if c == '$' then
      match readParameter false rest with
      | some (f, after) => readWord fuel after (w ++ [f])
      | none => none
    else if c == '\x60' then none
    else readWord fuel rest (w ++ [.literal [c] false])

def readRedirection (fuel : Nat) (s : Stream) (t : Text) : Option (Token × Text) :=
  let file (make : Word → Redirection) (t : Text) : Option (Token × Text) :=
    match readWord fuel (t.dropWhile fun c => c == ' ' || c == '\t') [] with
    | some (f :: w, after) => some (.redirection (make (f :: w)), after)
    | _ => none
  match t with
  | '>' :: rest => file (.append s) rest
  | '&' :: '1' :: rest => some (.redirection (.duplicate s .out), rest)
  | '&' :: '2' :: rest => some (.redirection (.duplicate s .err), rest)
  | rest => file (.create s) rest

def tokens : Nat → Text → Option (List Token)
  | 0, _ => none
  | _ + 1, [] => some []
  | fuel + 1, c :: rest =>
    if c == ' ' || c == '\t' then tokens fuel rest
    else if c == '\n' then (tokens fuel rest).map (.newline :: ·)
    else if c == '#' then tokens fuel (rest.dropWhile (· != '\n'))
    else match c, rest with
      | ';', _ => (tokens fuel rest).map (.semicolon :: ·)
      | '&', '&' :: after => (tokens fuel after).map (.both :: ·)
      | '|', '|' :: after => (tokens fuel after).map (.either :: ·)
      | '>', _ =>
        (readRedirection fuel .out rest).bind fun (tok, after) => (tokens fuel after).map (tok :: ·)
      | '1', '>' :: after =>
        (readRedirection fuel .out after).bind fun (tok, after) => (tokens fuel after).map (tok :: ·)
      | '2', '>' :: after =>
        (readRedirection fuel .err after).bind fun (tok, after) => (tokens fuel after).map (tok :: ·)
      | _, _ =>
        if isDelimiter c then none
        else (readWord fuel (c :: rest) []).bind fun (w, after) => (tokens fuel after).map (.word w :: ·)

def plainWord? : Token → Option Text
  | .word w => w.foldr (fun f t => match f, t with
    | .literal s false, some t => some (s ++ t)
    | _, _ => none) (some [])
  | _ => none

end Slipway.Shell
