/-
  OrderBy.Fault
  ─────────────
  **WHAT CAN GO WRONG.**

  Every operation that fails says why, as a value of one type.  A malformed
  expression is reported with the expression itself and a reason; a failed
  validation with one issue per rejected field; everything else with what the
  message needs.
-/
import OrderBy.Value
import OrderBy.Text.Utf8

namespace OrderBy

/-! ## §1. Malformed expressions. -/

/-- Why an expression cannot be read. -/
inductive Reason where
  /-- The expression is not a text. -/
  | notText (typeName : String)
  /-- The expression is blank. -/
  | noFields
  /-- A group, counted from 1, has no token. -/
  | emptyGroup (position : Nat)
  /-- A group has more tokens than it may have. -/
  | tooManyTokens (position count : Nat)
  /-- No expression was given and none is configured. -/
  | noExpression
  deriving DecidableEq, Repr

/-! ## §2. Rejected fields. -/

/-- Why the value of a field is rejected. -/
inductive Rejection where
  | missing
  | notText
  | textNotUtf8
  | notTruthValue
  | unreadableTruthValue
  | notInteger
  | unreadableInteger
  | integerTooLong
  | fractionalInteger
  | notFinite
  | negative
  | notDirection
  | notSequence
  | notKey
  | frozen
  | fieldName (fault : FieldNameFault)
  | noKeys
  | defaultExpression (reason : Reason)
  deriving DecidableEq, Repr

/-- One step of the way to a field. -/
inductive Step where
  | field (name : String)
  | index (i : Nat)
  deriving DecidableEq, Repr

/-- A rejected field: where it is and why. -/
structure Issue where
  path : List Step
  rejection : Rejection
  deriving DecidableEq, Repr

/-! ## §3. All faults. -/

/-- The two questions that a comparison can ask. -/
inductive Question where
  | less
  | greater
  deriving DecidableEq, Repr

/-- The question with the operands exchanged. -/
def Question.swap : Question → Question
  | less => greater
  | greater => less

/-- Why an item cannot be taken from a value. -/
inductive ItemFault where
  /-- The value has no items to take. -/
  | notSubscriptable (typeName : String)
  /-- The items of the container are numbered and the index is no number. -/
  | indexNotInteger (container : String) (index : String)
  /-- The index is beyond the ends of the container. -/
  | outOfRange (container : String)
  /-- The index is too large for any container. -/
  | indexTooLarge
  /-- The key cannot be a key of any dictionary. -/
  | unhashable (typeName : String)
  deriving DecidableEq, Repr

/-- What a template is made of, and so is what it is filled in to. -/
inductive Medium where
  | text
  | bytes
  deriving DecidableEq, Repr

/-- Why a template cannot be filled in. -/
inductive TemplateFault where
  /-- There are fewer arguments than places. -/
  | tooFewArguments
  /-- There are more arguments than places. -/
  | unusedArguments (medium : Medium)
  /-- A place names its argument, and the arguments have no names. -/
  | noNames
  /-- The name of an argument has no closing parenthesis. -/
  | unclosedName
  /-- The template ends within a place. -/
  | unfinished
  /-- A width or precision that is an argument is no integer. -/
  | countNotInteger
  /-- A width in the template does not fit into 64 bits. -/
  | widthTooLong
  /-- A precision in the template does not fit into 32 bits. -/
  | precisionTooLong (medium : Medium)
  /-- A width that is an argument does not fit into 64 bits. -/
  | widthTooLarge
  /-- A precision that is an argument does not fit into 32 bits. -/
  | precisionTooLarge
  /-- An integer would be written with more digits than there may be. -/
  | tooManyDigits
  /-- There is no conversion of this letter, which is at the index. -/
  | unknownLetter (medium : Medium) (letter : Char) (index : Nat)
  /-- A byte beyond ASCII stands in place of a letter. -/
  | letterNotAscii
  | notNumber (letter : Char) (typeName : String)
  | notInteger (letter : Char) (typeName : String)
  | notReal (medium : Medium) (typeName : String)
  | nanNotInteger
  | infinityNotInteger
  | notCharacter (medium : Medium)
  | characterOutOfRange (medium : Medium)
  | notBytes (typeName : String)
  deriving DecidableEq, Repr

/-- Why a settings document cannot be used. -/
inductive DocumentFault where
  /-- The text is not a document of the format. -/
  | malformed
  /-- A number has a base but no digits. -/
  | noDigits (base : Nat)
  /-- A decimal integer has more digits than it may have. -/
  | tooManyDigits (limit count : Nat)
  /-- A number in base sixty has a place that counts more than any double. -/
  | weightTooLarge
  /-- An escape names no code point. -/
  | noCodePoint
  /-- An escape names a number of 32 bits that is far beyond every code point. -/
  | codePointTooLarge
  /-- The document is not a mapping. -/
  | notMapping (typeName : String)
  /-- The settings are not a mapping. -/
  | settingsNotMapping (typeName : String)
  /-- The name of a setting is not a text. -/
  | settingNameNotText
  /-- The file is not UTF-8. -/
  | notUtf8 (fault : Text.Utf8Fault)
  /-- The file is a directory. -/
  | directory
  deriving DecidableEq, Repr

/-- Why an operation failed. -/
inductive Fault where
  | malformed (expression : Value) (reason : Reason)
  | emptySeparator
  | invalid (issues : List Issue)
  /-- The values have no order; the type names are those of the operands. -/
  | incomparable (question : Question) (left right : String)
  | missingKey (key : Value)
  | missingAttribute (typeName name : String)
  /-- A key has no part with this name. -/
  | missingPart (name : Value)
  | attributeNameNotText (typeName : String)
  | notCallable (typeName : String)
  | notIterable (typeName : String)
  | noLength (typeName : String)
  | item (fault : ItemFault)
  | notNegatable (typeName : String)
  | noRemainder (left right : String)
  | remainderByZero
  | doubleRemainderByZero
  | template (fault : TemplateFault)
  | integerTooLarge
  /-- A failure that an extractor or a probe brought up. -/
  | raised (r : Raised)
  /-- A generator came upon the end of an iteration that is not its own. -/
  | generatorStopped
  /-- An integer has more digits than may be written. -/
  | tooManyDigits (limit : Nat)
  | unknownSetting (name : String)
  /-- A property of settings that cannot be assigned to. -/
  | readOnlySetting (name : String)
  /-- The index of an item to remove is no integer. -/
  | indexNotInteger (typeName : String)
  | popFromEmpty
  | popOutOfRange
  | popIndexTooLarge
  | document (fault : DocumentFault)

namespace Fault

/-- Whether a fault says that an iteration is at its end, which is how a generator itself
says that it has nothing more to give. -/
def endsIteration : Fault → Bool
  | raised r => r.kind == "StopIteration"
  | _ => false

/-- The fault that leaves a generator in which one has come up: the same one, unless it
could be taken for the end of the generator. -/
def delivered (fault : Fault) : Fault := if fault.endsIteration then generatorStopped else fault

end Fault

end OrderBy
