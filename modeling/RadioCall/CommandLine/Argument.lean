/-
This file tells what each argument of the command line is: a plain word, a flag with or
without an attached value, a flag that is not known, or the mark that ends the flags. A
flag may be shortened as long as only one flag begins so. A word may begin with a hyphen
if it is a negative number or contains a space.
-/

import RadioCall.Text.Numeral

namespace RadioCall

namespace CommandLine

/-! ### Flags -/

/-- The flags of the command line. -/
inductive Flag
  | help
  | callsign
  | vocabulary
  | logLevel
  | version
  | altitudes
  deriving DecidableEq, Repr

/-- The short form of the flag that asks for help. -/
def shortHelp : Text := "-h".toList

/-- The spellings of the flags. -/
def spellings : List (Text × Flag) :=
  [(shortHelp, .help), ("--help".toList, .help), ("--callsign".toList, .callsign),
   ("--vocabulary".toList, .vocabulary), ("--log-level".toList, .logLevel),
   ("--version".toList, .version), ("--stacks".toList, .altitudes)]

/-! ### Arguments -/

/-- The mark that ends the flags. -/
def endMark : Text := ['-', '-']

/-- What an argument is. -/
inductive Argument
  | word (text : Text)
  /-- A flag, with the value that is attached to it. -/
  | flag (name : Flag) (attached : Option Text)
  /-- The beginning of several flags. -/
  | ambiguous
  /-- A flag that is not known. -/
  | unknown
  /-- The mark that ends the flags. -/
  | endOfFlags
  deriving DecidableEq, Repr

namespace Argument

/-- Divides an argument at its first equals sign. -/
def splitAttached : Text → Text × Option Text
  | [] => ([], none)
  | character :: rest =>
    if character = '=' then ([], some rest)
    else
      let (name, attached) := splitAttached rest
      (character :: name, attached)

/-- Whether the text after a hyphen makes a negative number; a line feed may follow it. -/
def isNegativeNumber (text : Text) : Bool :=
  let body := if text.getLast? = some '\n' then text.dropLast else text
  isNumeral body ||
    match body.dropWhile isDecimalDigit with
    | '.' :: fraction => isNumeral fraction
    | _ => false

/-- The short form of the flag for help with a text behind it, which may only repeat it. -/
def helpWith (attached : Text) : Argument :=
  if !attached.isEmpty && attached.all (· = 'h') then .flag .help none
  else .flag .help (some attached)

/-- The flags that begin with the given text, apart from its attached value. -/
def beginningWith (text : Text) : List Argument :=
  if endMark.isPrefixOf text then
    let (name, attached) := splitAttached text
    (spellings.filter fun spelling => name.isPrefixOf spelling.1).map fun spelling =>
      .flag spelling.2 attached
  else if shortHelp.isPrefixOf text then [helpWith (text.drop shortHelp.length)]
  else []

/-- The flag before an equals sign, if it is written out. -/
def withAttached? (text : Text) : Option Argument :=
  match splitAttached text with
  | (name, some attached) =>
    (spellings.lookup name).map fun known =>
      if name = shortHelp then helpWith attached else .flag known (some attached)
  | (_, none) => none

/-- What an argument with a hyphen and more is. -/
def ofHyphened (text : Text) : Argument :=
  match withAttached? text, beginningWith text with
  | some argument, _ => argument
  | none, [argument] => argument
  | none, _ :: _ :: _ => .ambiguous
  | none, [] =>
    if isNegativeNumber (text.drop 1) || text.contains ' ' then .word text else .unknown

/-- What an argument is, before the flags end. -/
def ofText (text : Text) : Argument :=
  match spellings.lookup text with
  | some known => .flag known none
  | none =>
    match text with
    | '-' :: _ :: _ => ofHyphened text
    | _ => .word text

/-- What the arguments of a command line are. After the mark that ends the flags all are
words. -/
def ofTexts : List Text → List Argument
  | [] => []
  | text :: rest =>
    if text = endMark then .endOfFlags :: rest.map .word else ofText text :: ofTexts rest

end Argument

end CommandLine

end RadioCall
