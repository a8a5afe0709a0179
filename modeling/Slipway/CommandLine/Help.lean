import Slipway.CommandLine.Diagnostic
set_option autoImplicit false

/-!
Help and version text.  The brief help has one line per option, the remarks aligned; the full help gives each
option a paragraph.  A full help exists only where it has more to say, that is where a permitted value carries a
remark; otherwise both requests get the brief one.
-/

namespace Slipway.CommandLine

def Spec.label (s : Spec) : Text :=
  (match s.letter? with
    | some c => ['-', c, ',', ' ']
    | none => "    ".toList) ++ s.shown

def Choice.isRemarked (c : Choice) : Bool := !c.remark.isEmpty

namespace Grammar

variable {ι : Type} [BEq ι]

def hasFullHelp (g : Grammar ι) : Bool := g.all.any fun o => (g.spec o).choices.any Choice.isRemarked

def remark (g : Grammar ι) (length : HelpLength) (o : ι) : Text :=
  (g.spec o).about ++
    match (g.spec o).kind with
    | .help =>
      if !g.hasFullHelp then []
      else if length == .brief then " (see more with '--help')".toList
      else " (see a summary with '-h')".toList
    | _ => []

def defaultNote (d : Text) : Text := "[default: ".toList ++ d ++ "]".toList

def choicesNote (choices : List Choice) : Text :=
  "[possible values: ".toList ++ list (choices.map Choice.word) ++ "]".toList

def notes (g : Grammar ι) (o : ι) : List Text :=
  match (g.spec o).kind with
  | .value _ _ d [] => [defaultNote d]
  | .value _ _ d choices => [defaultNote d, choicesNote choices]
  | _ => []

def briefLine (g : Grammar ι) (width : Nat) (o : ι) : Text :=
  let label := (g.spec o).label
  "  ".toList ++ label ++ List.replicate (width - label.length) ' ' ++ "  ".toList ++
    joinWith " ".toList (g.remark .brief o :: g.notes o) ++ "\n".toList

def margin : Text := List.replicate 10 ' '

def choiceLine (c : Choice) : Text :=
  margin ++ "- ".toList ++ c.word ++ (if c.isRemarked then ": ".toList ++ c.remark else []) ++ "\n".toList

def fullParagraph (g : Grammar ι) (o : ι) : Text :=
  let spec := g.spec o
  let head := "  ".toList ++ spec.label ++ "\n".toList ++ margin ++ g.remark .full o ++ "\n".toList
  let line (t : Text) : Text := margin ++ t ++ "\n".toList
  match spec.kind with
  | .value _ _ d choices =>
    if choices.any Choice.isRemarked then
      head ++ "\n".toList ++ line "Possible values:".toList ++ choices.flatMap choiceLine ++ line [] ++
        line (defaultNote d)
    else head ++ line [] ++ (g.notes o).flatMap line
  | _ => head

def helpText (g : Grammar ι) (name : Text) (length : HelpLength) : Text :=
  let body :=
    if length == .full && g.hasFullHelp then joinWith "\n".toList (g.all.map g.fullParagraph)
    else
      let width := (g.all.map fun o => (g.spec o).label.length).foldl max 0
      g.all.flatMap (g.briefLine width)
  g.about ++ "\n\n".toList ++ usage name [] ++ "\n\nOptions:\n".toList ++ body

def infoText (g : Grammar ι) (name : Text) : Info → Text
  | .help length => g.helpText name length
  | .version => g.command ++ " ".toList ++ versionNumber ++ "\n".toList

end Grammar

end Slipway.CommandLine
