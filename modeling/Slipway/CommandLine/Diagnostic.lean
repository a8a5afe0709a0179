import Slipway.CommandLine.Scan
import Slipway.Path
import Slipway.Text.Terminal
set_option autoImplicit false

namespace Slipway.CommandLine

/-- The name the usage line gives the command: the last component of the name it was called by. -/
def calledBy (command : Text) : List Bytes → Text
  | [] => command
  | t :: _ => ((Path.fileName? t).bind decode?).getD command

def list (words : List Text) : Text := joinWith ", ".toList words

namespace Grammar

open Terminal (visible)

variable {ι : Type} [BEq ι]

def usage (name : Text) (shown : List Text) : Text :=
  "Usage: ".toList ++ visible name ++ " ".toList ++
    match shown with
    | [] => "[OPTIONS]".toList
    | shown => joinWith " ".toList shown

def alternatives (g : Grammar ι) : Text :=
  let own := g.all.filter fun o => (g.spec o).isOwn
  "<".toList ++ joinWith "|".toList (own.map fun o => (g.spec o).shown) ++ ">".toList

/-- What the usage line shows for an option that was given a value it does not take.  Behind another option the
command's own options stand together, this one among them. -/
def shownForUnwanted (g : Grammar ι) (o : ι) (late : Bool) : List Text :=
  let spec := g.spec o
  if late then (if spec.isOwn then [] else [spec.shown]) ++ [g.alternatives] else [spec.shown]

def permitted (g : Grammar ι) (o : ι) : Text :=
  match (g.spec o).choices with
  | [] => []
  | choices => "\n  [possible values: ".toList ++ list (choices.map Choice.word) ++ "]".toList

def tip (what found : Text) : Text :=
  "\n\n  tip: a similar ".toList ++ what ++ " exists: '".toList ++ found ++ "'".toList

def faultText (g : Grammar ι) (name : Text) : Fault ι → Text
  | .unexpected shown similar used =>
    "unexpected argument '".toList ++ visible shown ++ "' found".toList ++
      (match similar with
        | some o => tip "argument".toList ("--".toList ++ (g.spec o).long)
        | none => []) ++
      "\n\n".toList ++ usage name (used.map fun o => (g.spec o).shown)
  | .unwantedValue value o late =>
    "unexpected value '".toList ++ visible value ++ "' for '".toList ++ (g.spec o).shown ++
      "' found; no more were expected\n\n".toList ++ usage name (g.shownForUnwanted o late)
  | .repeated o =>
    "the argument '".toList ++ (g.spec o).shown ++ "' cannot be used multiple times\n\n".toList ++
      usage name []
  | .valueMissing o =>
    "a value is required for '".toList ++ (g.spec o).shown ++ "' but none was supplied".toList ++ g.permitted o
  | .notAChoice value o similar =>
    "invalid value '".toList ++ visible value ++ "' for '".toList ++ (g.spec o).shown ++ "'".toList ++ g.permitted o ++
      match similar with
      | some w => tip "value".toList w
      | none => []

def seeHelp : Text := "\n\nFor more information, try '--help'.".toList

def diagnostic (g : Grammar ι) (name : Text) (f : Fault ι) : Text := g.faultText name f ++ seeHelp

end Grammar

end Slipway.CommandLine
