/-
  OrderBy.Fault.Message
  ─────────────────────
  **THE WORDING OF FAULTS.**

  All texts that a failure shows are written here, one function per kind of
  cause.  Failures whose text is not fixed (a malformed document, a directory
  in place of a file, a list of issues, a missing key that cannot be written)
  have none.
-/
import OrderBy.Fault
import OrderBy.Value.Text

namespace OrderBy

/-- The reason, as the message of a malformed expression shows it. -/
def Reason.text : Reason → String
  | notText typeName => "expected string expression, got " ++ typeName
  | noFields => "no fields supplied"
  | emptyGroup position => "group " ++ toString position ++ " is empty"
  | tooManyTokens position count =>
    "group " ++ toString position ++ " has " ++ toString count
      ++ " tokens, expected a field and an optional direction"
  | noExpression => "no expression given and no default_expression configured"

/-- The message of a malformed expression: the expression in its plain form, and
the reason. -/
def Reason.message (expression : Value) (r : Reason) : String :=
  "'" ++ expression.plain ++ "' doesn't appear correctly formatted: " ++ r.text

/-- The fault of a malformed expression.  Its message is made with it, and shows the
expression; if that cannot be written, this comes up instead. -/
def Fault.ofMalformed (expression : Value) (reason : Reason) : Fault :=
  if expression.isWritable then .malformed expression reason
  else .tooManyDigits Value.writtenDigits

/-- The name of a kind of rejection. -/
def Rejection.code : Rejection → String
  | missing => "missing"
  | notText => "string_type"
  | textNotUtf8 => "string_unicode"
  | notTruthValue => "bool_type"
  | unreadableTruthValue => "bool_parsing"
  | notInteger => "int_type"
  | unreadableInteger => "int_parsing"
  | integerTooLong => "int_parsing_size"
  | fractionalInteger => "int_from_float"
  | notFinite => "finite_number"
  | negative => "greater_than_equal"
  | notDirection => "enum"
  | notSequence => "tuple_type"
  | notKey => "model_type"
  | frozen => "frozen_instance"
  | fieldName _ | noKeys | defaultExpression _ => "value_error"

/-- The text of a rejection. -/
def Rejection.message : Rejection → String
  | missing => "Field required"
  | notText => "Input should be a valid string"
  | textNotUtf8 => "Input should be a valid string, unable to parse raw data as a unicode string"
  | notTruthValue => "Input should be a valid boolean"
  | unreadableTruthValue => "Input should be a valid boolean, unable to interpret input"
  | notInteger => "Input should be a valid integer"
  | unreadableInteger =>
    "Input should be a valid integer, unable to parse string as an integer"
  | integerTooLong => "Unable to parse input string as an integer, exceeded maximum size"
  | fractionalInteger =>
    "Input should be a valid integer, got a number with a fractional part"
  | notFinite => "Input should be a finite number"
  | negative => "Input should be greater than or equal to 0"
  | notDirection => "Input should be 'ASC' or 'DESC'"
  | notSequence => "Input should be a valid tuple"
  | notKey => "Input should be a valid dictionary or instance of SortKey"
  | frozen => "Instance is frozen"
  | fieldName .empty => "Value error, field name must not be empty"
  | fieldName .blankOrComma =>
    "Value error, field name must not contain whitespace or commas"
  | noKeys => "Value error, at least one sort key is required"
  | defaultExpression r => "Value error, invalid default_expression: " ++ r.text

/-- The sign of a question. -/
def Question.sign : Question → String
  | less => "<"
  | greater => ">"

/-- What messages call the items of a container when an index is out of range. -/
def ItemFault.rangeSubject : String → String
  | "str" | "SortDirection" => "string index"
  | "bytes" => "index"
  | container => container ++ " index"

/-- The text of a failure to take an item. -/
def ItemFault.message : ItemFault → String
  | notSubscriptable typeName => "'" ++ typeName ++ "' object is not subscriptable"
  | indexNotInteger container index =>
    if container == "str" || container == "SortDirection" then
      "string indices must be integers, not '" ++ index ++ "'"
    else (if container == "bytes" then "byte" else container)
      ++ " indices must be integers or slices, not " ++ index
  | outOfRange container => rangeSubject container ++ " out of range"
  | indexTooLarge => "cannot fit 'int' into an index-sized integer"
  | unhashable typeName => "unhashable type: '" ++ typeName ++ "'"

/-- The text of a failure to fill in a template. -/
def TemplateFault.message : TemplateFault → String
  | tooFewArguments => "not enough arguments for format string"
  | unusedArguments .text => "not all arguments converted during string formatting"
  | unusedArguments .bytes => "not all arguments converted during bytes formatting"
  | noNames => "format requires a mapping"
  | unclosedName => "incomplete format key"
  | unfinished => "incomplete format"
  | countNotInteger => "* wants int"
  | widthTooLong => "width too big"
  | precisionTooLong .text => "precision too big"
  | precisionTooLong .bytes => "prec too big"
  | widthTooLarge => "Python int too large to convert to C ssize_t"
  | precisionTooLarge => "Python int too large to convert to C int"
  | tooManyDigits => "precision too large"
  | unknownLetter medium letter index =>
    let shown :=
      if medium == .bytes || (31 ≤ letter.toNat && letter.toNat ≤ 126) then letter else '?'
    "unsupported format character '" ++ shown.toString ++ "' (0x"
      ++ String.ofList (Text.hexDigits 1 letter.toNat) ++ ") at index " ++ toString index
  | letterNotAscii => "character argument not in range(0x110000)"
  | notNumber letter typeName =>
    "%" ++ letter.toString ++ " format: a real number is required, not " ++ typeName
  | notInteger letter typeName =>
    "%" ++ letter.toString ++ " format: an integer is required, not " ++ typeName
  | notReal .text typeName => "must be real number, not " ++ typeName
  | notReal .bytes typeName => "float argument required, not " ++ typeName
  | nanNotInteger => "cannot convert float NaN to integer"
  | infinityNotInteger => "cannot convert float infinity to integer"
  | notCharacter .text => "%c requires int or char"
  | notCharacter .bytes => "%c requires an integer in range(256) or a single byte"
  | characterOutOfRange .text => "%c arg not in range(0x110000)"
  | characterOutOfRange .bytes => "%c arg not in range(256)"
  | notBytes typeName =>
    "%b requires a bytes-like object, or an object that implements __bytes__, not '" ++ typeName ++ "'"

/-- The text of an unreadable byte sequence. -/
def Text.Utf8Fault.message (f : Text.Utf8Fault) : String :=
  let place :=
    if f.length == 1 then
      "byte 0x" ++ String.ofList (Text.hexDigits 2 f.lead.toNat) ++ " in position " ++ toString f.position
    else "bytes in position " ++ toString f.position ++ "-" ++ toString (f.position + f.length - 1)
  let cause := match f.cause with
    | .invalidStart => "invalid start byte"
    | .invalidContinuation => "invalid continuation byte"
    | .unexpectedEnd => "unexpected end of data"
  "'utf-8' codec can't decode " ++ place ++ ": " ++ cause

/-- The text of an unusable document, if it is fixed. -/
def DocumentFault.message? : DocumentFault → Option String
  | malformed | directory => none
  | noDigits base => some ("invalid literal for int() with base " ++ toString base ++ ": ''")
  | tooManyDigits limit count =>
    some ("Exceeds the limit (" ++ toString limit ++ " digits) for integer string conversion: value has "
      ++ toString count ++ " digits; use sys.set_int_max_str_digits() to increase the limit")
  | weightTooLarge => some "int too large to convert to float"
  | noCodePoint => some "chr() arg not in range(0x110000)"
  | codePointTooLarge => some "Python int too large to convert to C int"
  | notMapping typeName => some ("'" ++ typeName ++ "' object has no attribute 'get'")
  | settingsNotMapping typeName =>
    some ("backend.sortbystr.config.SorterConfig() argument after ** must be a mapping, not "
      ++ typeName)
  | settingNameNotText => some "keywords must be strings"
  | notUtf8 fault => some fault.message

/-- The text of a failure that was brought up: of a missing key the quoted text,
of any other kind the text itself. -/
def Raised.message (r : Raised) : String :=
  if r.kind == "KeyError" then Text.quoteString r.text else r.text

/-- The text of a fault, if it is fixed. -/
def Fault.message? : Fault → Option String
  | malformed expression reason => some (reason.message expression)
  | emptySeparator => some "empty separator"
  | invalid _ => none
  | incomparable question left right =>
    some ("'" ++ question.sign ++ "' not supported between instances of '" ++ left ++ "' and '"
      ++ right ++ "'")
  | missingKey key => if key.isWritable then some key.quoted else none
  | missingAttribute typeName name =>
    some ("'" ++ typeName ++ "' object has no attribute '" ++ name ++ "'")
  | missingPart name => some ("'SortKey' object has no attribute " ++ name.quoted)
  | attributeNameNotText typeName =>
    some ("attribute name must be string, not '" ++ typeName ++ "'")
  | notCallable typeName => some ("'" ++ typeName ++ "' object is not callable")
  | notIterable typeName => some ("'" ++ typeName ++ "' object is not iterable")
  | noLength typeName => some ("object of type '" ++ typeName ++ "' has no len()")
  | item fault => some fault.message
  | notNegatable typeName => some ("bad operand type for unary -: '" ++ typeName ++ "'")
  | noRemainder left right =>
    some ("unsupported operand type(s) for %: '" ++ left ++ "' and '" ++ right ++ "'")
  | remainderByZero => some "integer modulo by zero"
  | doubleRemainderByZero => some "float modulo"
  | template fault => some fault.message
  | integerTooLarge => some "int too large to convert to float"
  | raised r => some r.message
  | generatorStopped => some "generator raised StopIteration"
  | tooManyDigits limit =>
    some ("Exceeds the limit (" ++ toString limit ++ " digits) for integer string conversion; "
      ++ "use sys.set_int_max_str_digits() to increase the limit")
  | unknownSetting name => some ("\"SorterConfig\" object has no field \"" ++ name ++ "\"")
  | readOnlySetting name =>
    some ("property '" ++ name ++ "' of 'SorterConfig' object has no setter")
  | indexNotInteger typeName =>
    some ("'" ++ typeName ++ "' object cannot be interpreted as an integer")
  | popFromEmpty => some "pop from empty list"
  | popOutOfRange => some "pop index out of range"
  | popIndexTooLarge => some "Python int too large to convert to C ssize_t"
  | document fault => fault.message?

end OrderBy
