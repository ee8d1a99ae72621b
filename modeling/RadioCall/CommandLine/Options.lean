/-
This file reads the arguments of the command line. A flag takes one word or, for stacks,
all words that follow it; the other words are transmissions and must stand together. The
arguments are read in order, so a flag that asks for the version or for help is answered
unless something before it was wrong. If a flag is given again, its last value counts; the
mark that ends the flags takes a value back when it is attached to the flag.
-/

import RadioCall.CommandLine.Argument
import RadioCall.Number.Literal

namespace RadioCall

namespace CommandLine

/-! ### Options -/

/-- What the command line asks for. -/
structure Options where
  transmissions : List Text
  callsign : Option Text
  vocabulary : Option Text
  logLevel : Option Text
  altitudes : List Double
  deriving DecidableEq, Repr

/-- A command line without arguments. -/
def Options.none : Options := ⟨[], .none, .none, .none, []⟩

/-- Why reading ends before there are options. -/
inductive Stop
  | misuse
  | version
  | help
  deriving DecidableEq, Repr

/-! ### Arrangement -/

/-- A flag, or one that is not known, with the words up to the next; the mark that ends
the flags stands among them as nothing. -/
structure Item where
  flag : Option (Flag × Option Text)
  following : List (Option Text)
  deriving DecidableEq, Repr

/-- Arguments as words at the beginning and items. -/
structure Arrangement where
  leading : List (Option Text)
  items : List Item
  deriving DecidableEq, Repr

/-- Puts an argument in front. -/
def Arrangement.prepend (argument : Argument) (others : Arrangement) : Arrangement :=
  match argument with
  | .word text => { others with leading := some text :: others.leading }
  | .endOfFlags => { others with leading := .none :: others.leading }
  | .flag name attached => ⟨[], ⟨some (name, attached), others.leading⟩ :: others.items⟩
  | .ambiguous => ⟨[], ⟨.none, others.leading⟩ :: others.items⟩
  | .unknown => ⟨[], ⟨.none, others.leading⟩ :: others.items⟩

/-- The arrangement of a list of arguments. -/
def Arrangement.ofArguments (arguments : List Argument) : Arrangement :=
  arguments.foldr prepend ⟨[], []⟩

/-! ### Reading -/

/-- What was read so far: the options, whether there were transmissions, and whether
something was there that has no place. -/
structure Progress where
  options : Options
  hasTransmissions : Bool
  isMisused : Bool
  deriving DecidableEq, Repr

namespace Progress

/-- Takes words that belong to no flag as the transmissions, once. -/
def takeWords (progress : Progress) (following : List (Option Text)) : Progress :=
  if following.isEmpty then progress
  else if progress.hasTransmissions then { progress with isMisused := true }
  else
    { progress with
      options := { progress.options with transmissions := following.filterMap id }
      hasTransmissions := true }

/-- Takes the options that a flag has set, and the words that follow the flag. -/
def withOptions (progress : Progress) (options : Options) (following : List (Option Text)) :
    Progress :=
  takeWords { progress with options := options } following

/-- The value of a flag, attached or the first word that follows, and what follows it. The
mark that ends the flags is no value, though it may be attached. -/
def takeValue (attached : Option Text) (following : List (Option Text)) :
    Except Stop (Option Text × List (Option Text)) :=
  match attached, following with
  | some value, _ => .ok (if value = endMark then none else some value, following)
  | none, some value :: rest => .ok (some value, rest)
  | none, _ => .error .misuse

/-- The words at the beginning, up to the mark that ends the flags. -/
def wordsOf : List (Option Text) → List Text
  | some word :: rest => word :: wordsOf rest
  | _ => []

/-- The values of the flag for stacks, and what follows them. -/
def takeValues (attached : Option Text) (following : List (Option Text)) :
    Except Stop (List Text × List (Option Text)) :=
  match attached with
  | some value => .ok (if value = endMark then [] else [value], following)
  | none =>
    let values := wordsOf following
    if values.isEmpty then .error .misuse else .ok (values, following.drop values.length)

/-- The doubles that words spell. -/
def readDoubles (values : List Text) : Except Stop (List Double) :=
  match values.mapM double? with
  | some doubles => .ok doubles
  | none => .error .misuse

/-- Reads an item. -/
def takeItem (progress : Progress) (item : Item) : Except Stop Progress := do
  match item.flag with
  | none => .ok (takeWords { progress with isMisused := true } item.following)
  | some (.help, none) => .error .help
  | some (.version, none) => .error .version
  | some (.help, some _) => .error .misuse
  | some (.version, some _) => .error .misuse
  | some (.callsign, attached) =>
    let (value, rest) ← takeValue attached item.following
    .ok (progress.withOptions { progress.options with callsign := value } rest)
  | some (.vocabulary, attached) =>
    let (value, rest) ← takeValue attached item.following
    .ok (progress.withOptions { progress.options with vocabulary := value } rest)
  | some (.logLevel, attached) =>
    let (value, rest) ← takeValue attached item.following
    .ok (progress.withOptions { progress.options with logLevel := value } rest)
  | some (.altitudes, attached) =>
    let (values, rest) ← takeValues attached item.following
    let altitudes ← readDoubles values
    .ok (progress.withOptions { progress.options with altitudes := altitudes } rest)

end Progress

/-- Reads the arguments of a command line. -/
def Options.read (texts : List Text) : Except Stop Options := do
  let arguments := Argument.ofTexts texts
  if arguments.contains .ambiguous then .error .misuse
  else
    let arrangement := Arrangement.ofArguments arguments
    let first := Progress.takeWords ⟨Options.none, false, false⟩ arrangement.leading
    let last ← arrangement.items.foldlM Progress.takeItem first
    if last.isMisused then .error .misuse else .ok last.options

end CommandLine

end RadioCall
