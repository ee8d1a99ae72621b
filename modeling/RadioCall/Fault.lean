/-
This file names everything that can go wrong. A fault is a cause: what was found and
where it does not fit. The wording of a fault is a separate function, so the rest of
the library speaks about causes only.
-/

import RadioCall.Text.Quoted

namespace RadioCall

/-! ### Causes -/

/-- Why a vocabulary definition is rejected. A part of the definition that the report
shows is kept in the form in which it is shown. -/
inductive DefinitionFault
  | notMapping
  | aliasNotOneWord (universalAlias : Text)
  | noTriggers
  | unknownRequestWords (shown : Text)
  | noPhrase (request : Text)
  | emptyPhrase (request : Text)
  | sharedPhrase (phrase : Text) (first second : Text)
  | noDigits
  | digitKey (shown : Text)
  | digitOutOfRange (shown : Text)
  | digitsWithoutWord (shown : Text)
  | categoriesNotMapping
  | unknownCategory (shown : Text)
  deriving DecidableEq, Repr

/-- Why the places of a template cannot be filled. -/
inductive TemplateFault
  | nameNotClosed
  | placeNotClosed
  | widthTooLarge
  | limitTooLarge
  /-- There is no such form of a text; the position is that of its letter. -/
  | unknownForm (form : Char) (position : Nat)
  deriving DecidableEq, Repr

/-- What can go wrong in any part of the library. -/
inductive Fault
  /-- A numeral to be read has more digits than allowed. -/
  | numeralTooLong (digits : Nat)
  /-- A number to be written has more digits than allowed. -/
  | numberTooLong
  /-- A whole number is asked of the value that is not a number. -/
  | notANumber
  /-- A whole number is asked of an infinity, or a double of too large a number. -/
  | beyondRange
  /-- A controller callsign has no word or more than one. -/
  | callsignNotOneWord (given : Text)
  /-- A vocabulary definition is rejected. -/
  | definition (cause : DefinitionFault)
  /-- There is no contact category of this name. -/
  | unknownCategory (shown : Text)
  /-- There is no request word of this name. -/
  | unknownRequestWord (shown : Text)
  /-- A log level is set to something that is no level. -/
  | unknownLevel (given : Text)
  /-- A logger cannot be configured as asked. -/
  | loggerConfiguration (shown : Text)
  /-- The root logger cannot be configured as asked. -/
  | rootConfiguration
  /-- The logging configuration is of a version that is not known. -/
  | loggingVersion (shown : Text)
  /-- A template cannot be filled. -/
  | template (cause : TemplateFault)
  /-- A place of a template has a name that stands for nothing. -/
  | unknownName
  /-- A value is of a kind that the operation does not take. -/
  | wrongKind
  /-- A text is asked of a value that is not a text. -/
  | notText
  /-- There is no token at the position of the cursor. -/
  | noToken
  /-- There is no file at the path. -/
  | noFile
  /-- There is a directory at the path where a file is asked for. -/
  | isDirectory
  /-- The path leads through a file. -/
  | throughFile
  /-- A directory is to be made where a file is. -/
  | alreadyFile
  /-- A name or a path is longer than files may have. -/
  | nameTooLong
  /-- A path contains the null character. -/
  | nullInPath
  /-- The bytes of a file are not a text. -/
  | notDecodable
  /-- The text of a file is not a document. -/
  | malformed
  /-- A document holds documents within one another at too many levels. -/
  | nestedTooDeep
  deriving DecidableEq, Repr

/-! ### Wording -/

/-- The wording of a rejected definition. -/
def DefinitionFault.message : DefinitionFault → Text
  | .notMapping => "Vocabulary must be a mapping".toList
  | .aliasNotOneWord universalAlias =>
    "universal_alias must be one word, got ".toList ++ quoted universalAlias
  | .noTriggers => "triggers section is missing".toList
  | .unknownRequestWords shown => "Unknown request words: ".toList ++ shown
  | .noPhrase request => "No trigger phrase for ".toList ++ request
  | .emptyPhrase request => "Empty trigger phrase for ".toList ++ request
  | .sharedPhrase phrase first second =>
    "Trigger ".toList ++ quoted phrase ++ " used by both ".toList ++ first ++ " and ".toList ++
      second
  | .noDigits => "digits section is missing".toList
  | .digitKey shown => "Invalid digit key: ".toList ++ shown
  | .digitOutOfRange shown => "Digit out of range: ".toList ++ shown
  | .digitsWithoutWord shown => "No spelling for digits: ".toList ++ shown
  | .categoriesNotMapping => "contact_categories must be a mapping".toList
  | .unknownCategory shown => "Unknown contact category: ".toList ++ shown

/-- A character as a message about it shows it; only plain characters are shown. -/
def plainShown (character : Char) : Char :=
  if 0x1f ≤ character.toNat && character.toNat ≤ 0x7e then character else '?'

/-- The wording of a fault in a template. -/
def TemplateFault.message : TemplateFault → Text
  | .nameNotClosed => "incomplete format key".toList
  | .placeNotClosed => "incomplete format".toList
  | .widthTooLarge => "width too big".toList
  | .limitTooLarge => "precision too big".toList
  | .unknownForm form position =>
    "unsupported format character ".toList ++ singleQuote :: plainShown form :: singleQuote ::
      " (0x".toList ++ Nat.toDigits 16 form.toNat ++ ") at index ".toList ++
        Nat.toDigits 10 position

/-- The advice at the end of both messages about long numbers. -/
def digitLimitAdvice : Text :=
  "; use sys.set_int_max_str_digits() to increase the limit".toList

/-- The wording of a fault, for the faults that are reported with one. -/
def Fault.message? : Fault → Option Text
  | .numeralTooLong digits =>
    some ("Exceeds the limit (4300 digits) for integer string conversion: value has ".toList ++
      Nat.toDigits 10 digits ++ " digits".toList ++ digitLimitAdvice)
  | .numberTooLong =>
    some ("Exceeds the limit (4300 digits) for integer string conversion".toList ++
      digitLimitAdvice)
  | .notANumber => some "cannot convert float NaN to integer".toList
  | .callsignNotOneWord given =>
    some ("Controller callsign must be a single word, got ".toList ++ quoted given)
  | .definition cause => some cause.message
  | .unknownCategory shown => some (shown ++ " is not a valid ContactCategory".toList)
  | .unknownRequestWord shown => some (shown ++ " is not a valid RequestWord".toList)
  | .unknownLevel given => some ("Unknown level: ".toList ++ quoted given)
  | .loggerConfiguration shown => some ("Unable to configure logger ".toList ++ shown)
  | .rootConfiguration => some "Unable to configure root logger".toList
  | .loggingVersion shown => some ("Unsupported version: ".toList ++ shown)
  | .template cause => some cause.message
  | .nullInPath => some "embedded null byte".toList
  | _ => none

end RadioCall
