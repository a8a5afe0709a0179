import Slipway.Text.Utf8
set_option autoImplicit false

namespace Slipway.CommandLine

structure Choice where
  word : Text
  remark : Text

/-- What an option wants after it.  A switch has no one-letter name here, so in a cluster of letters the first
option is also the last. -/
inductive Kind
  | switch
  | value (letter : Option Char) (metavar : Text) (default : Text) (choices : List Choice)
  | help
  | version

structure Spec where
  long : Text
  kind : Kind
  about : Text

/-- A command's options, named by the elements of `ι`, in the order in which help lists them. -/
structure Grammar (ι : Type) where
  command : Text
  about : Text
  all : List ι
  spec : ι → Spec

def Spec.letter? (s : Spec) : Option Char :=
  match s.kind with
  | .switch => none
  | .value letter _ _ _ => letter
  | .help => some 'h'
  | .version => some 'V'

def Spec.shown (s : Spec) : Text :=
  match s.kind with
  | .value _ metavar _ _ => "--".toList ++ s.long ++ " <".toList ++ metavar ++ ">".toList
  | _ => "--".toList ++ s.long

def Spec.isOwn (s : Spec) : Bool :=
  match s.kind with
  | .switch | .value .. => true
  | .help | .version => false

def Spec.choices (s : Spec) : List Choice :=
  match s.kind with
  | .value _ _ _ choices => choices
  | _ => []

namespace Grammar

variable {ι : Type}

def byLong? (g : Grammar ι) (name : Bytes) : Option ι := g.all.find? fun o => utf8 (g.spec o).long == name

def byLetter? (g : Grammar ι) (c : Char) : Option ι := g.all.find? fun o => (g.spec o).letter? == some c

end Grammar

def versionNumber : Text := "0.1.0".toList

end Slipway.CommandLine
