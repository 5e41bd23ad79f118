import TensorGraph.Failure
import TensorGraph.Text.Blank

/-!
# Options of the engine

Which kinds the engine takes over, and how the host may group their nodes. Kinds can be selected by
a text: kind names separated by commas, in which case, underscores, blanks around a name and blank
entries do not matter.
-/

namespace TensorGraph.Substitution

namespace Kind

/-- An ASCII capital as the small letter; other characters stay. -/
def lowerCase (text : List Char) : List Char := text.map Char.toLower

/-- What is compared of a written name: no blanks at the ends, no underscores, small letters. -/
def normalized (text : List Char) : List Char :=
  lowerCase ((Text.trim text).filter (· ≠ '_'))

def named? (text : List Char) : Option Kind :=
  all.find? fun kind => lowerCase kind.name.toList == normalized text

/-- The kind with a name. -/
def parse (text : String) : Except Fault Kind := require (named? text.toList) (.unknownKind text)

end Kind

/-- The kinds that the engine takes over, and limits on the groups of their nodes. -/
structure Options where
  kinds : List Kind
  maxPartitions : Option Nat
  minNodes : Nat
deriving DecidableEq

namespace Options

/-- The given kinds, without limits. -/
def only (kinds : List Kind) : Options := ⟨kinds, none, 1⟩

def all : Options := only Kind.all

def enables (options : Options) (kind : Kind) : Bool := options.kinds.contains kind

def splitAtCommas : List Char → List (List Char)
  | [] => [[]]
  | c :: rest =>
    if c = ',' then [] :: splitAtCommas rest
    else
      match splitAtCommas rest with
      | [] => [[c]]
      | part :: parts => (c :: part) :: parts

/-- The parts between commas that are not blank. -/
def entries (text : List Char) : List (List Char) :=
  (splitAtCommas text).filter fun part => !(Text.trim part).isEmpty

/-- The kinds named in a text, in its order. -/
def parse (text : String) : Except Fault Options := do
  let kinds ← (entries text.toList).mapM fun entry => Kind.parse (String.ofList entry)
  return only kinds

/-- The kinds named in a setting; all kinds if there is no such setting. -/
def ofSetting (setting : Option String) : Except Fault Options :=
  match setting with
  | some text => parse text
  | none => .ok all

def withMaxPartitions (options : Options) (limit : Nat) : Options :=
  { options with maxPartitions := some limit }

def withMinNodes (options : Options) (limit : Nat) : Options := { options with minNodes := limit }

end Options

end TensorGraph.Substitution
