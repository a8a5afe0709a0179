import Slipway.CommandLine.Grammar
import Slipway.CommandLine.Similarity
set_option autoImplicit false

/-!
Reading a command line against a grammar, token by token.  A value that stands in a token of its own stays
pending until the next recognised option or the end, and only then counts (and may be refused); a value attached to
its option counts at once.  A request for help or for the version ends the reading and wins over all that follows,
but not over a fault before it.
-/

namespace Slipway.CommandLine

inductive Fault (ι : Type)
  /-- The token is neither an option nor a value in its place; `used` are the options the usage line shows. -/
  | unexpected (shown : Text) (similar : Option ι) (used : List ι)
  /-- The option takes no value; `late` tells whether another option has counted before it. -/
  | unwantedValue (value : Text) (option : ι) (late : Bool)
  | repeated (option : ι)
  | valueMissing (option : ι)
  | notAChoice (value : Text) (option : ι) (similar : Option Text)

/-- An option that waits for its value, or has just been followed by it. -/
structure Pending (ι : Type) where
  option : ι
  value : Option Bytes

structure Progress (ι : Type) where
  /-- Options in the order of their first use. -/
  used : List ι
  values : List (ι × Bytes)
  pending : Option (Pending ι)

def Progress.start {ι : Type} : Progress ι := ⟨[], [], none⟩

def Progress.count {ι : Type} (p : Progress ι) (o : ι) : Progress ι := { p with used := p.used ++ [o] }

inductive HelpLength
  | brief
  | full
deriving DecidableEq

inductive Info
  | help (length : HelpLength)
  | version
deriving DecidableEq

inductive Reading (ι : Type)
  | accepted (used : List ι) (values : List (ι × Bytes))
  | info (i : Info)
  | refused (f : Fault ι)

namespace Grammar

variable {ι : Type} [BEq ι]

def valueFault? (g : Grammar ι) (o : ι) (v : Bytes) : Option (Fault ι) :=
  if v == [] then some (.valueMissing o)
  else match (g.spec o).choices with
    | [] => none
    | choices =>
      if choices.any fun c => utf8 c.word == v then none
      else some (.notAChoice (lossy v) o
        ((mostSimilar? (lossy v) Choice.word choices).map Choice.word))

/-- One use of an option, with its value if it came with one.  An option that lacks its value is not used at all; a
second use takes the option off the list again. -/
def use (g : Grammar ι) (p : Progress ι) (o : ι) (v : Option Bytes) : Progress ι × Option (Fault ι) :=
  match (g.spec o).kind, v with
  | .value .., none => (p, some (.valueMissing o))
  | kind, v =>
    if p.used.elem o then ({ p with used := p.used.filter (· != o) }, some (.repeated o))
    else match kind, v with
      | .value .., some v =>
        match g.valueFault? o v with
        | some f => (p.count o, some f)
        | none => ({ p.count o with values := p.values ++ [(o, v)] }, none)
      | _, _ => (p.count o, none)

def settle (g : Grammar ι) (p : Progress ι) : Progress ι × Option (Fault ι) :=
  match p.pending with
  | none => (p, none)
  | some w => g.use { p with pending := none } w.option w.value

def settleThenUse (g : Grammar ι) (p : Progress ι) (o : ι) (v : Option Bytes) :
    Except (Fault ι) (Progress ι) :=
  match g.settle p with
  | (_, some f) => .error f
  | (p, none) =>
    match g.use p o v with
    | (_, some f) => .error f
    | (p, none) => .ok p

def settleThenAwait (g : Grammar ι) (p : Progress ι) (o : ι) : Except (Fault ι) (Progress ι) :=
  match g.settle p with
  | (_, some f) => .error f
  | (p, none) => .ok { p with pending := some ⟨o, none⟩ }

def settleThenInform (g : Grammar ι) (p : Progress ι) (i : Info) : Reading ι :=
  match g.settle p with
  | (_, some f) => .refused f
  | (_, none) => .info i

def noteUse (used : List ι) (o : ι) : List ι := if used.elem o then used else used ++ [o]

/-- A long name that is no option's: the fault names the option that may have been meant, and the usage line shows
what was used so far together with that option. -/
def unknownLong (g : Grammar ι) (p : Progress ι) (name : Bytes) : Fault ι :=
  let shown := lossy name
  let used := (g.settle p).1.used
  match mostSimilar? shown (fun o => (g.spec o).long) g.all with
  | some o => .unexpected ("--".toList ++ shown) (some o) (noteUse used o)
  | none => .unexpected ("--".toList ++ shown) none used

inductive Turn (ι : Type)
  | goesOn (p : Progress ι)
  | finished (r : Reading ι)
  | optionsEnd

def Turn.ofExcept : Except (Fault ι) (Progress ι) → Turn ι
  | .ok p => .goesOn p
  | .error f => .finished (.refused f)

def readLong (g : Grammar ι) (p : Progress ι) (name : Bytes) (attached : Option Bytes) : Turn ι :=
  match g.byLong? name with
  | none => .finished (.refused (g.unknownLong p name))
  | some o =>
    match (g.spec o).kind, attached with
    | .value .., some v => .ofExcept (g.settleThenUse p o (some v))
    | .value .., none => .ofExcept (g.settleThenAwait p o)
    | _, some v => .finished (.refused (.unwantedValue (lossy v) o (p.used != [])))
    | .switch, none => .ofExcept (g.settleThenUse p o none)
    | .help, none => .finished (g.settleThenInform p (.help .full))
    | .version, none => .finished (g.settleThenInform p .version)

def firstChar? (bs : Bytes) : Option (Char × Bytes) :=
  match pieces bs with
  | .char c :: _ => some (c, bs.drop (String.utf8EncodeChar c).length)
  | _ => none

def equalsSign : UInt8 := 0x3D

/-- The letters after a single hyphen.  What follows the letter of an option that takes a value is that value, less
one leading equals sign. -/
def readLetters (g : Grammar ι) (p : Progress ι) (letters : Bytes) : Turn ι :=
  match firstChar? letters with
  | none => .finished (.refused (.unexpected ('-' :: lossy letters) none []))
  | some (c, rest) =>
    match g.byLetter? c with
    | none => .finished (.refused (.unexpected ['-', c] none []))
    | some o =>
      match (g.spec o).kind, rest with
      | .value .., [] => .ofExcept (g.settleThenAwait p o)
      | .value .., b :: bs =>
        .ofExcept (g.settleThenUse p o (some (if b == equalsSign then bs else b :: bs)))
      | .switch, _ => .ofExcept (g.settleThenUse p o none)
      | .help, _ => .finished (g.settleThenInform p (.help .brief))
      | .version, _ => .finished (g.settleThenInform p .version)

def readPlain (p : Progress ι) (token : Bytes) : Turn ι :=
  match p.pending with
  | some ⟨o, none⟩ => .goesOn { p with pending := some ⟨o, some token⟩ }
  | _ => .finished (.refused (.unexpected (lossy token) none []))

def hyphen : UInt8 := 0x2D

def splitAttached (bs : Bytes) : Bytes × Option Bytes :=
  match bs.dropWhile (· != equalsSign) with
  | [] => (bs, none)
  | _ :: v => (bs.takeWhile (· != equalsSign), some v)

def readToken (g : Grammar ι) (p : Progress ι) (token : Bytes) : Turn ι :=
  match token with
  | a :: b :: rest =>
    if a != hyphen then readPlain p token
    else if b != hyphen then g.readLetters p (b :: rest)
    else if rest == [] then .optionsEnd
    else
      let (name, attached) := splitAttached rest
      g.readLong p name attached
  | _ => readPlain p token

def finish (g : Grammar ι) (p : Progress ι) : Reading ι :=
  match g.settle p with
  | (_, some f) => .refused f
  | (p, none) => .accepted p.used p.values

def scanFrom (g : Grammar ι) : Progress ι → List Bytes → Reading ι
  | p, [] => g.finish p
  | p, t :: ts =>
    match g.readToken p t with
    | .goesOn p' => scanFrom g p' ts
    | .finished r => r
    | .optionsEnd =>
      match ts with
      | [] => g.finish p
      | x :: _ => .refused (.unexpected (lossy x) none [])

def scan (g : Grammar ι) (tokens : List Bytes) : Reading ι := g.scanFrom .start tokens

end Grammar

end Slipway.CommandLine
