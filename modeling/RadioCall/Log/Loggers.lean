/-
This file sets up the loggers of a program. Loggers have dotted names and hang on one
another; one without a level of its own has that of the logger it hangs on, and in the end
that of the root logger. A configuration file sets levels by name; without one, the root
logger gets a handler and the level of usual events. A level that is asked for overrides
that of the root logger.
-/

import RadioCall.Document.Shown
import RadioCall.File.Tree
import RadioCall.Log.Level

namespace RadioCall

/-- A logger other than the root logger: the level it was given, or zero, and the name of
the logger it hangs on, if that is not the root logger. -/
structure Logger where
  level : LogLevel
  parent : Option Text
  deriving DecidableEq, Repr

/-- The loggers of a program: the level of the root logger, the number of its handlers and
the other loggers by name. -/
structure Loggers where
  root : LogLevel
  handlers : Nat
  named : Table Text Logger
  deriving DecidableEq, Repr

namespace Loggers

/-- The loggers before anything is set up. -/
def fresh : Loggers := ⟨LogLevel.warning, 0, []⟩

/-! ### Names -/

/-- The name of the root logger. -/
def rootName : Text := "root".toList

/-- Whether a name stands for the root logger. -/
def isRootName (name : Text) : Bool :=
  name.isEmpty || name = rootName

/-- The names above a name that is given latest character first, the nearest first. Each
ends before a dot; the character right before a dot that ended one is not looked at. -/
def namesAboveFrom (looked : Bool) : Text → List Text
  | [] => []
  | character :: rest =>
    if looked && character = '.' && !rest.isEmpty then rest.reverse :: namesAboveFrom false rest
    else namesAboveFrom true rest

/-- The names above a name, the nearest first. -/
def namesAbove (name : Text) : List Text :=
  namesAboveFrom true name.reverse

/-! ### Loggers by name -/

/-- Whether there is a logger of this name besides the root logger. -/
def isNamed (loggers : Loggers) (name : Text) : Bool :=
  (loggers.named.lookup name).isSome

/-- A logger after one of the given name was made. If that name is above its own, it now
hangs on the new logger, unless the name of the one it hangs on begins with the new name.
All loggers between the two are so passed over, and the root logger with them if its name
begins so. -/
def Logger.rehang (made : Text) (entry : Text × Logger) : Text × Logger :=
  if (namesAbove entry.1).contains made &&
      !made.isPrefixOf (entry.2.parent.getD rootName) then
    (entry.1, { entry.2 with parent := some made })
  else entry

/-- Makes a logger, unless there is one of this name. It hangs on the nearest logger above. -/
def obtain (loggers : Loggers) (name : Text) : Loggers :=
  if isRootName name || loggers.isNamed name then loggers
  else
    let made := ⟨0, (namesAbove name).find? loggers.isNamed⟩
    { loggers with named := loggers.named.map (Logger.rehang name) ++ [(name, made)] }

/-- Gives a logger a level. -/
def setLevel (loggers : Loggers) (name : Text) (level : LogLevel) : Loggers :=
  if isRootName name then { loggers with root := level }
  else
    { loggers with
      named := loggers.named.map fun entry =>
        if entry.1 = name then (name, { entry.2 with level := level }) else entry }

/-- The level of a logger, its own or that of the next one above it with a level. It is
found within the given number of steps: each leads to a shorter name. -/
def levelWithin (loggers : Loggers) : Nat → Text → LogLevel
  | 0, _ => loggers.root
  | steps + 1, name =>
    match loggers.named.lookup name with
    | none => loggers.root
    | some logger =>
      if logger.level ≠ 0 then logger.level
      else
        match logger.parent with
        | none => loggers.root
        | some parent => levelWithin loggers steps parent

/-- The level that a logger has. -/
def effectiveLevel (loggers : Loggers) (name : Text) : LogLevel :=
  loggers.levelWithin name.length name

/-- The levels that loggers have, which are made in turn if they are missing. -/
def effectiveLevels (loggers : Loggers) : List Text → List LogLevel
  | [] => []
  | name :: rest =>
    let loggers := loggers.obtain name
    loggers.effectiveLevel name :: effectiveLevels loggers rest

/-! ### Configuration files -/

/-- The level that the section of a logger sets, if it sets one. -/
def sectionLevel (fault : Fault) : Document → Except Fault (Option LogLevel)
  | .mapping entries =>
    match Document.find? "level".toList entries with
    | none => .ok none
    | some (.scalar .null) => .ok none
    | some (.scalar value) =>
      match LogLevel.ofScalar? value with
      | some level => .ok (some level)
      | none => .error fault
    | some _ => .error fault
  | _ => .error fault

/-- Sets the level of a logger by its section, and makes the logger if it is missing. -/
def configureLogger (loggers : Loggers) (name : Scalar) (settings : Document) :
    Except Fault Loggers := do
  let fault := Fault.loggerConfiguration (← name.shown)
  match name with
  | .text name => do
    let loggers := loggers.obtain name
    match ← sectionLevel fault settings with
    | some level => .ok (loggers.setLevel name level)
    | none => .ok loggers
  | _ => .error fault

/-- Refuses the first of names that are listed without sections. A pair in its place cannot
even be named. -/
def refuseFirst (loggers : Loggers) : List Document → Except Fault Loggers
  | [] => .ok loggers
  | .pair _ _ :: _ => .error .wrongKind
  | first :: _ => do .error (.loggerConfiguration (← first.shown))

/-- Sets the levels of the loggers that are listed. A list of names without sections
cannot be used. -/
def configureLoggers (loggers : Loggers) : Document → Except Fault Loggers
  | .mapping entries =>
    entries.foldlM (fun loggers entry => loggers.configureLogger entry.1 entry.2) loggers
  | .scalar (.text names) => loggers.refuseFirst (names.map fun name => .text [name])
  | .scalar (.bytes names) => loggers.refuseFirst (names.map fun name => .integer name.toNat)
  | .scalar _ => .error .wrongKind
  | .list names => loggers.refuseFirst names
  | .set names => loggers.refuseFirst (names.map .scalar)
  | .pair first second => loggers.refuseFirst [first, second]

/-- Sets the level of the root logger by its section; a section that counts as absent
sets nothing. -/
def configureRoot (loggers : Loggers) (settings : Document) : Except Fault Loggers :=
  if settings.isFalsy then .ok loggers
  else do
    match ← sectionLevel .rootConfiguration settings with
    | some level => .ok { loggers with root := level }
    | none => .ok loggers

/-- Sets up the loggers by a configuration. Its version must be one. -/
def configure (loggers : Loggers) (configuration : List (Scalar × Document)) :
    Except Fault Loggers := do
  match (Document.find? "version".toList configuration).getD (.integer 1) with
  | .scalar version =>
    if version.isSameKey (.integer 1) then .ok ()
    else do .error (.loggingVersion (← (Document.scalar version).spoken))
  | .pair _ _ => .error .wrongKind
  | version => do .error (.loggingVersion (← version.spoken))
  let listed := (Document.find? "loggers".toList configuration).getD (.mapping [])
  let loggers ← loggers.configureLoggers listed
  loggers.configureRoot ((Document.find? "root".toList configuration).getD .null)

/-- The configuration in a file, empty if the file holds no mapping. -/
def readConfiguration (reader : DocumentReader) (tree : FileTree) (name : Text) :
    Except Fault (List (Scalar × Document)) :=
  match Path.literal? name with
  | none => .error .noFile
  | some path => do
    match ← (← tree.read path).asDocument reader with
    | .mapping entries => .ok entries
    | _ => .ok []

/-! ### Setting up -/

/-- Sets up the loggers without a configuration. -/
def useFallback (loggers : Loggers) : Loggers :=
  { loggers with handlers := loggers.handlers + 1, root := LogLevel.info }

/-- Sets the root logger to the level that is asked for. A value that counts as absent
asks for none. -/
def overrideLevel (loggers : Loggers) (level : Document) : Except Fault Loggers :=
  if level.isFalsy then .ok loggers
  else
    match level with
    | .scalar (.text word) => do .ok { loggers with root := ← LogLevel.ofWord word }
    | _ => .error .notText

/-- The configuration that is used: that of the file, if a name is given and something is
there. -/
def configuration (reader : DocumentReader) (tree : FileTree) :
    Option Text → Except Fault (List (Scalar × Document))
  | none => .ok []
  | some name => do
    if ← tree.isPresent (Path.ofText name) then readConfiguration reader tree name else .ok []

/-- Sets up the loggers by a configuration file, if there is one, and a level, if one is
asked for. -/
def setUp (reader : DocumentReader) (tree : FileTree) (name : Option Text) (level : Document) :
    Except Fault Loggers := do
  let entries ← configuration reader tree name
  let loggers ← if entries.isEmpty then .ok fresh.useFallback else fresh.configure entries
  loggers.overrideLevel level

end Loggers

end RadioCall
