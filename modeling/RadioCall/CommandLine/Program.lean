/-
This file defines what the program does with its arguments, its input and the files that
are there. It prints the stacks of given altitudes, or reads transmissions and prints a
record of each. It ends with status 0, or 1 if a transmission was not a request, or 2 if
the arguments or the settings cannot be used; or with a fault that it does not handle.
-/

import RadioCall.CommandLine.Options
import RadioCall.CommandLine.Printout
import RadioCall.CommandLine.Template
import RadioCall.Log.Loggers
import RadioCall.Settings.Controller
import RadioCall.Settings.Store
import RadioCall.Text.Lines
import RadioCall.Text.Paragraph
import RadioCall.Version

namespace RadioCall

namespace CommandLine

/-- The status of a program that cannot use what it was given. -/
def refused : Printout Nat := .silent 2

/-! ### The version -/

/-- The width of the lines in which the version is printed. -/
def versionWidth : Nat := 78

/-- The version as it is printed: a template for the name of the program, filled and set
into lines. -/
def versionText (version : Text) : Except Fault Text :=
  (fun filled => paragraph versionWidth (singleSpaced filled) ++ ['\n']) <$> fillTemplate version

/-- Prints the version. -/
def printVersion (version : Text) : Printout Nat :=
  match versionText version with
  | .error cause => .fault cause
  | .ok text => ⟨text, .ok 0⟩

/-- How the program is used. -/
def usage : Text :=
  ("usage: [-h] [--callsign CALLSIGN] [--vocabulary VOCABULARY] [--log-level LOG_LEVEL] " ++
    "[--version] [--stacks FEET [FEET ...]] [transmissions ...]\n").toList

/-! ### Settings -/

/-- A value that is given and not empty. -/
def given? : Option Text → Option Text
  | some (first :: rest) => some (first :: rest)
  | _ => none

/-- The settings with the callsign of the command line, if one is given. -/
def withCallsign (options : Options) (settings : Settings) : Except Fault Settings :=
  match given? options.callsign with
  | some callsign => settings.setCallsign callsign
  | none => .ok settings

/-- The settings with the vocabulary file of the command line, by the plain form of its
name; an empty name is the working directory. -/
def withVocabulary (options : Options) (settings : Settings) : Settings :=
  match options.vocabulary with
  | some name => settings.setVocabularyPath (Path.ofText name).text
  | none => settings

/-- The settings with the log level of the command line, if one is given. -/
def withLogLevel (options : Options) (settings : Settings) : Settings :=
  match given? options.logLevel with
  | some level => settings.setLogLevel level
  | none => settings

/-- The settings with those of the command line. -/
def settingsWith (options : Options) (settings : Settings) : Except Fault Settings := do
  .ok (withLogLevel options (withVocabulary options (← withCallsign options settings)))

/-! ### The program -/

/-- Whether a fault in making the controller is one that the program handles: a value of
the wrong kind and a number out of range are not. -/
def isHandled : Fault → Bool
  | .wrongKind => false
  | .notText => false
  | .noToken => false
  | .unknownName => false
  | .nestedTooDeep => false
  | .beyondRange => false
  | _ => true

/-- The transmissions to read: those among the arguments, or else the lines of the input,
which must be a text. -/
def transmissionsOf (options : Options) (input : Content) : Except Fault (List Text) :=
  if options.transmissions.isEmpty then lines <$> input.asText else .ok options.transmissions

/-- Reads transmissions with the controller of the settings. The input is looked at once
there is a controller. -/
def parseTransmissions (reader : DocumentReader) (options : Options) (input : Content)
    (settings : Settings) (tree : FileTree) : Printout Nat :=
  match (settings.controller reader .empty tree).1 with
  | .error cause => if isHandled cause then refused else .fault cause
  | .ok controller =>
    match transmissionsOf options input with
    | .error cause => .fault cause
    | .ok transmissions =>
      (controller.printRecords transmissions).map fun failures => if failures = 0 then 0 else 1

/-- Prints the stacks of altitudes. -/
def printStacks (altitudes : List Double) : Printout Nat :=
  match Stack.ofAltitudes (altitudes.map .measured) with
  | .error cause => .fault cause
  | .ok found => (Stack.printRecords found).map fun _ => 0

/-- Runs the program with options and settings. The log is set up first. -/
def runWith (reader : DocumentReader) (options : Options) (input : Content)
    (settings : Settings) (tree : FileTree) : Printout Nat :=
  match Loggers.fresh.overrideLevel settings.logLevel with
  | .error cause => .fault cause
  | .ok _ =>
    if options.altitudes.isEmpty then parseTransmissions reader options input settings tree
    else printStacks options.altitudes

/-- Runs the program with options, after loading the settings. -/
def runOptions (reader : DocumentReader) (options : Options) (input : Content)
    (tree : FileTree) : Printout Nat :=
  match Settings.initial.load tree none with
  | (.error cause, _) => .fault cause
  | (.ok _, stored) =>
    match settingsWith options stored with
    | .error _ => refused
    | .ok settings => runWith reader options input settings tree

/-- Runs the program, with a reader for vocabulary files. The version is read before anything
else. -/
def run (reader : DocumentReader) (arguments : List Text) (input : Content) (tree : FileTree) :
    Printout Nat :=
  match Version.read tree with
  | .error cause => .fault cause
  | .ok version =>
    match Options.read arguments with
    | .error .misuse => refused
    | .error .version => printVersion version
    | .error .help => ⟨usage, .ok 0⟩
    | .ok options => runOptions reader options input tree

/-! ### What the program looks at -/

/-- Whether the program reads its input. -/
def readsInput (arguments : List Text) : Bool :=
  match Options.read arguments with
  | .ok options => options.transmissions.isEmpty && options.altitudes.isEmpty
  | .error _ => false

/-- The name of the vocabulary file that the program reads, if it reads one. -/
def vocabularyName? (arguments : List Text) (tree : FileTree) : Option Text :=
  match Options.read arguments with
  | .ok options =>
    match (withVocabulary options (Settings.initial.load tree none).2).vocabularyPath with
    | .scalar (.text name) => given? (some name)
    | _ => none
  | .error _ => none

end CommandLine

end RadioCall
