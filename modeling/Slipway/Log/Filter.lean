import Slipway.Log.Pattern
set_option autoImplicit false

/-!
Logging behind a filter.  A filter is a comma-separated list of directives, each a level, a target, or both
(`warn`, `tool::run=debug`), with field names in brackets if only events with these fields are meant.  The most
specific directive that concerns an event decides.  A directive that names a span or a field's value concerns no
event here, since nothing here opens a span; but it has to be well formed like the others.
-/

namespace Slipway.Log

inductive Level
  | off
  | error
  | warn
  | info
  | debug
  | trace
deriving DecidableEq, Repr

namespace Level

def rank : Level → Nat
  | .off => 0
  | .error => 1
  | .warn => 2
  | .info => 3
  | .debug => 4
  | .trace => 5

def all : List Level := [.off, .error, .warn, .info, .debug, .trace]

def name : Level → Text
  | .off => "OFF".toList
  | .error => "ERROR".toList
  | .warn => "WARN".toList
  | .info => "INFO".toList
  | .debug => "DEBUG".toList
  | .trace => "TRACE".toList

def ofText? (t : Text) : Option Level :=
  match natOfText? (if t.head? == some '+' then t.tail else t) with
  | some n => all.find? fun l => l.rank == n
  | none => all.find? fun l => l.name == t.map Char.toUpper

end Level

def unsigned : Text → Text
  | '+' :: t => t
  | '-' :: t => t
  | t => t

def isExponent : Text → Bool
  | [] => true
  | e :: t => e.toLower == 'e' && (natOfText? (unsigned t)).isSome

/-- A decimal with a point or an exponent or neither, infinity, or no number; a sign may stand in front. -/
def isNumber (t : Text) : Bool :=
  let body := unsigned t
  let whole := body.takeWhile Char.isDigit
  let (fraction, rest) := match body.dropWhile Char.isDigit with
    | '.' :: r => (r.takeWhile Char.isDigit, r.dropWhile Char.isDigit)
    | r => ([], r)
  ["inf".toList, "infinity".toList, "nan".toList].elem (body.map Char.toLower) ||
    !(whole ++ fraction).isEmpty && isExponent rest

def isValue (t : Text) : Bool := isNumber t || Pattern.isWellFormed t

structure Directive where
  level : Level
  target : Option Text
  fields : List Text
  beyondEvents : Bool
deriving DecidableEq

/-- How far the reading of a directive has come, and where the part under way began. -/
inductive Stage
  | start
  | levelOrTarget (since : Nat)
  | span (since : Nat)
  | field (since : Nat)
  | fieldsEnd
  | spanEnd
  | level (since : Nat)

namespace Directive

def blank : Directive := ⟨.trace, none, [], false⟩

def addField (d : Directive) (t : Text) : Option Directive :=
  match splitWhere (· == '=') t with
  | [[]] | [] => none
  | [name] => some { d with fields := d.fields ++ [name] }
  | name :: value :: _ =>
    if isValue value then some { d with fields := d.fields ++ [name], beyondEvents := true } else none

/-- One character, the `i`-th; `cut a b` is the text from `a` up to `b`. -/
def advance (cut : Nat → Nat → Text) (i : Nat) (c : Char) (s : Stage) (d : Directive) :
    Option (Stage × Directive) :=
  match s with
  | .start =>
    if c == '[' then some (.span (i + 1), d)
    else if c == '-' || c == ':' || c == '_' || isAlphanumeric c then some (.levelOrTarget i, d)
    else none
  | .levelOrTarget a =>
    if c == '=' then some (.level (i + 1), { d with target := some (cut a i) })
    else if c == '[' then some (.span (i + 1), { d with target := some (cut a i) })
    else some (s, d)
  | .span a =>
    if c == ']' then some (.spanEnd, { d with beyondEvents := true })
    else if c == '\x7b' then some (.field (i + 1), { d with beyondEvents := d.beyondEvents || a < i })
    else some (s, d)
  | .field a =>
    if c == '\x7d' then (d.addField (cut a i)).map fun d => (.fieldsEnd, d) else some (s, d)
  | .fieldsEnd => if c == ']' then some (.spanEnd, d) else none
  | .spanEnd => if c == '=' then some (.level (i + 1), d) else none
  | .level _ => some (s, d)

def advanceAll (cut : Nat → Nat → Text) : Nat → Text → Stage → Directive → Option (Stage × Directive)
  | _, [], s, d => some (s, d)
  | i, c :: cs, s, d =>
    match advance cut i c s d with
    | some (s', d') => advanceAll cut (i + 1) cs s' d'
    | none => none

/-- Reads one directive.  Blanks around it take part in the last word though not in the reading, so a level
with a blank behind it is no level but the name of a target. -/
def ofText? (t : Text) : Option Directive :=
  let cut (a b : Nat) : Text := (t.drop a).take (b - a)
  match advanceAll cut 0 (trim t) .start blank with
  | some (.levelOrTarget a, d) =>
    match t.drop a with
    | [] => some { d with level := .trace, target := none }
    | w =>
      match Level.ofText? w with
      | some l => some { d with level := l, target := none }
      | none => some { d with level := .trace, target := some w }
  | some (.level a, d) =>
    match t.drop a with
    | [] => some { d with level := .trace }
    | w => (Level.ofText? w).map fun l => { d with level := l }
  | some (.spanEnd, d) => some d
  | _ => none

def concerns (d : Directive) (target : Text) (fields : List Text) : Bool :=
  !d.beyondEvents && (d.target.getD []).isPrefixOf target && d.fields.all fields.elem

def precedes (s t : Text) : Bool := s.lex t fun c d => c < d

/-- Whether `d` comes before `e`, if both concern an event and `d` was given later: the longer target does, then
more fields, then the names that are later in the alphabet. -/
def overrides (d e : Directive) : Bool :=
  let weight (x : Directive) : Nat := (x.target.map fun t => t.length + 1).getD 0
  weight e < weight d || weight e == weight d &&
    (e.fields.length < d.fields.length ||
      e.fields.length == d.fields.length && !d.fields.lex e.fields precedes)

end Directive

abbrev Filter := List Directive

namespace Filter

def silent : Filter := []

def standard : Filter := [⟨.warn, none, [], false⟩]

def ofText? (t : Text) : Option Filter :=
  ((splitWhere (· == ',') t).filter (! ·.isEmpty)).mapM Directive.ofText?

/-- The filter a variable asks for; one that is absent, not text or not well formed counts for nothing. -/
def ofVariable (value : Option Text) : Filter := (value.bind ofText?).getD standard

def allows (f : Filter) (level : Level) (target : Text) (fields : List Text) : Bool :=
  let best := (f.filter (Directive.concerns · target fields)).foldl (fun best d =>
    match best with
    | some b => if d.overrides b then some d else some b
    | none => some d) none
  match best with
  | some d => level.rank ≤ d.level.rank
  | none => false

end Filter

end Slipway.Log
