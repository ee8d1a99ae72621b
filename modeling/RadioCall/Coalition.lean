/-
This file defines the two coalitions that take part. The feed gives the coalition of a
unit as a number; every other number, and everything that is not a number, belongs to
neither.
-/

import RadioCall.Document.Basic

namespace RadioCall

/-- A participating coalition. -/
inductive Coalition
  | red
  | blue
  deriving DecidableEq, Repr

namespace Coalition

/-- All coalitions. -/
def all : List Coalition := [red, blue]

/-- The number of a coalition in the feed. -/
def value : Coalition → Int
  | red => 1
  | blue => 2

/-- The name of a coalition. -/
def name : Coalition → Text
  | red => "RED".toList
  | blue => "BLUE".toList

/-- The coalition that a value of the feed stands for: the one with an equal number. -/
def ofValue? : Document → Option Coalition
  | .scalar value => all.find? fun coalition => value.isSameKey (.integer coalition.value)
  | _ => none

/-- Whether a value of the feed stands for neither coalition. -/
def isNonParticipant (value : Document) : Bool :=
  (ofValue? value).isNone

end Coalition

end RadioCall
