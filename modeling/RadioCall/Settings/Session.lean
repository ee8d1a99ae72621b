/-
This file defines a session with settings: the files, the vocabularies loaded so far, the
settings at hand, and the settings that all parts of a program share. The shared settings
are loaded from the default file when they are first asked for. They may be the very
settings at hand; a change to these is then a change to the shared ones.
-/

import RadioCall.Settings.Controller
import RadioCall.Settings.Store

namespace RadioCall

/-- The settings that all parts of a program share: not asked for yet, the settings at
hand, or others. -/
inductive SharedSettings
  | unset
  | current
  | other (settings : Settings)
  deriving Repr

/-- Shared settings that are given out, and whether they were at hand already. -/
structure GivenSettings where
  settings : Settings
  wereAtHand : Bool

/-- A session with settings. -/
structure Session where
  tree : FileTree
  cache : VocabularyCache
  current : Settings
  shared : SharedSettings

namespace Session

/-- A session without files, with settings that are not shared. -/
def start : Session where
  tree := .empty
  cache := .empty
  current := .initial
  shared := .unset

/-- The shared settings once other settings are at hand. -/
def keepShared (session : Session) : SharedSettings :=
  match session.shared with
  | .current => .other session.current
  | shared => shared

/-- Takes new settings to hand. -/
def renew (session : Session) : Session :=
  { session with current := .initial, shared := session.keepShared }

/-- Gives out settings as the shared ones, which are then at hand. -/
def give (session : Session) (settings : Settings) (wereAtHand : Bool) :
    Except Fault GivenSettings × Session :=
  (.ok ⟨settings, wereAtHand⟩, { session with current := settings, shared := .current })

/-- Gives out the shared settings. When they are first asked for they are loaded; should
that end in a fault, the fault is all that is given out. They stay shared as they are then,
and the settings at hand do not change. -/
def takeShared (session : Session) : Except Fault GivenSettings × Session :=
  match session.shared with
  | .current => session.give session.current true
  | .other settings => session.give settings false
  | .unset =>
    match Settings.initial.load session.tree none with
    | (.ok _, settings) => session.give settings false
    | (.error fault, settings) => (.error fault, { session with shared := .other settings })

/-- Forgets the shared settings. -/
def resetShared (session : Session) : Session :=
  { session with shared := .unset }

/-- Loads the settings at hand. -/
def load (session : Session) (path : Option Path) : Except Fault Bool × Session :=
  let (outcome, settings) := session.current.load session.tree path
  (outcome, { session with current := settings })

/-- Saves the settings at hand. -/
def save (session : Session) (path : Option Path) : Except Fault Bool × Session :=
  let saved := session.current.save session.tree path
  (saved.outcome, { session with current := saved.settings, tree := saved.tree })

/-- The controller of the settings at hand. -/
def controller (session : Session) (reader : DocumentReader) :
    Except Fault Controller × Session :=
  let (controller, cache) := session.current.controller reader session.cache session.tree
  (controller, { session with cache := cache })

end Session

end RadioCall
