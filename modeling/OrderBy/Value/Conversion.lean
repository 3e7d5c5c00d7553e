/-
  OrderBy.Value.Conversion
  ────────────────────────
  **VALUES GIVEN FOR FIELDS OF A FIXED TYPE.**

  A field with a fixed type takes every value that can stand for one of that
  type without loss: bytes for a text, `"yes"` for true, `4.0` for an integer.
  Everything else is rejected, and the rejection says in which way.
-/
import OrderBy.Fault
import OrderBy.Number.Decimal

namespace OrderBy.Value

/-! ## §1. Texts. -/

/-- A text: itself, the name of a direction, or what UTF-8 bytes encode. -/
def toText : Value → Except Rejection String
  | text s => .ok s
  | direction d => .ok d.name
  | bytes bs =>
    match Text.decodeUtf8 bs with
    | .ok cs => .ok (String.ofList cs)
    | .error _ => .error .textNotUtf8
  | _ => .error .notText

/-- A text that may be absent. -/
def toOptionalText : Value → Except Rejection (Option String)
  | null => .ok none
  | v => some <$> v.toText

/-! ## §2. Truth values. -/

/-- The words for true. -/
def trueWords : List String := ["1", "on", "t", "true", "y", "yes"]

/-- The words for false. -/
def falseWords : List String := ["0", "off", "f", "false", "n", "no"]

/-- The truth value of a word, in any case of ASCII letters. -/
def truthOfWord (s : String) : Except Rejection Bool :=
  let word := String.ofList (s.toList.map Char.toLower)
  if trueWords.contains word then .ok true
  else if falseWords.contains word then .ok false
  else .error .unreadableTruthValue

/-- Whether an integer fits into 64 bits with a sign. -/
def fitsWord (n : Int) : Bool := -Nat.pow 2 63 ≤ n && n < Nat.pow 2 63

/-- The integer that a double is, if it is one strictly between the least 64-bit
integer and its negation. -/
def wholeWord? (x : Binary64) : Option Int := x.toInt?.filter (fun n => n.natAbs < Nat.pow 2 63)

/-- A truth value: itself, the numbers 0 and 1, or a word for it. -/
def toTruth : Value → Except Rejection Bool
  | bool b => .ok b
  | int n =>
    if n == 0 then .ok false
    else if n == 1 then .ok true
    else if fitsWord n then .error .unreadableTruthValue
    else .error .notTruthValue
  | float x =>
    match wholeWord? x with
    | some 0 => .ok false
    | some 1 => .ok true
    | some _ => .error .unreadableTruthValue
    | none => .error .notTruthValue
  | v =>
    match v.toText with
    | .ok s => truthOfWord s
    | .error .textNotUtf8 => .error .unreadableTruthValue
    | .error _ => .error .notTruthValue

/-! ## §3. Integers. -/

/-- The spaces that may surround a number: all blanks but the ASCII separators. -/
def isSpace (c : Char) : Bool := Text.isBlank c && !(0x1C ≤ c.toNat && c.toNat ≤ 0x1F)

/-- How many digits a number in a text may have. -/
def digitLimit : Nat := 4300

/-- The number that a text begins with: a sign or none, and digits of which only a
single one may be a zero at the front. -/
def leadingNumber (s : List Char) : List Char :=
  let (sign, body) := match s with
    | '-' :: rest => (['-'], rest)
    | rest => ([], rest)
  match body with
  | '0' :: _ => sign ++ ['0']
  | body => sign ++ body.takeWhile isDigit

/-- The integer that a text without any ornament writes. -/
def bareInteger (s : List Char) : Except Rejection Int :=
  let number := leadingNumber s
  let (negative, digits) := splitSign number
  if digitLimit < digits.length then .error .integerTooLong
  else if number.length == s.length && !digits.isEmpty then
    .ok (Binary64.signed negative (numberOfDigits digits))
  else .error .unreadableInteger

/-- Pass the zeros, and the underscores among them, that a number begins with.  One
zero stays in front of a point, and the last character stays if there is no other
digit; a minus sign behind zeros begins the number anew. -/
def passZeros : List Char → Option (List Char)
  | [] => none
  | [c] => if c == '0' || c == '_' then some [c] else none
  | c :: d :: rest =>
    if d == '0' || d == '_' then passZeros (d :: rest)
    else if d == '.' then some (c :: d :: rest)
    else if isDigit d || d == '-' then some (d :: rest)
    else none

/-- A number without the zeros at its front; it must begin with a digit. -/
def withoutLeadingZeros (s : List Char) : Option (List Char) :=
  match s with
  | '0' :: _ => passZeros s
  | c :: _ => if isDigit c then some s else none
  | [] => none

/-- A number without the point and the zeros behind it, if there is at least one
and nothing else. -/
def withoutFraction (s : List Char) : List Char :=
  match s.dropWhile (· != '.') with
  | '.' :: zeros => if !zeros.isEmpty && zeros.all (· == '0') then s.takeWhile (· != '.') else s
  | _ => s

/-- Whether two underscores stand side by side. -/
def hasDoubledMark : List Char → Bool
  | c :: d :: rest => (c == '_' && d == '_') || hasDoubledMark (d :: rest)
  | _ => false

/-- A number without its underscores, if each of them stands alone between other
characters; otherwise all of them stay. -/
def withoutGrouping (s : List Char) : List Char :=
  if s.head? == some '_' || s.getLast? == some '_' || hasDoubledMark s then s
  else s.filter (· != '_')

/-- The text without ornaments: surrounding spaces, a plus sign, zeros at the
front, a fraction of zeros and underscores. -/
def withoutOrnaments (s : List Char) : Option (List Char) :=
  let (sign, body) := match Text.trimBy isSpace s with
    | '-' :: rest => (['-'], rest)
    | '+' :: rest => ([], rest)
    | rest => ([], rest)
  (withoutLeadingZeros body).map (fun n => sign ++ withoutGrouping (withoutFraction n))

/-- The integer that a text writes, with or without ornaments.  Only a number that
the text begins with is said to be too long; one that has ornaments in front of it
cannot be read. -/
def integerOfText (s : List Char) : Except Rejection Int :=
  match bareInteger s with
  | .error .unreadableInteger =>
    match (withoutOrnaments s).map bareInteger with
    | some (.ok n) => .ok n
    | _ => .error .unreadableInteger
  | result => result

/-- An integer: itself, a truth value as 0 or 1, a number without fraction that is
no larger than 64 bits can hold, or what a text writes. -/
def toInteger : Value → Except Rejection Int
  | int n => .ok n
  | bool b => .ok (if b then 1 else 0)
  | float x =>
    match x.units?, x.toInt?, wholeWord? x with
    | none, _, _ => .error .notFinite
    | some _, none, _ => .error .fractionalInteger
    | some _, some _, none => .error .integerTooLong
    | some _, some _, some n => .ok n
  | v =>
    match v.toText with
    | .ok s => integerOfText s.toList
    | .error .textNotUtf8 => .error .unreadableInteger
    | .error _ => .error .notInteger

/-- An integer that is not negative. -/
def toCount (v : Value) : Except Rejection Nat :=
  match v.toInteger with
  | .ok n => if n < 0 then .error .negative else .ok n.toNat
  | .error r => .error r

/-! ## §4. Directions and sequences. -/

/-- A direction: itself, or exactly its name. -/
def toDirection (v : Value) : Except Rejection Direction :=
  match v, v.toText with
  | direction d, _ => .ok d
  | _, .ok s =>
    match Direction.ofName? s with
    | some d => .ok d
    | none => .error .notDirection
  | _, .error _ => .error .notDirection

/-- A sequence: the items of a list, a tuple or a set. -/
def toSequence : Value → Except Rejection (List Value)
  | list xs | tuple xs | set xs => .ok xs
  | _ => .error .notSequence

end OrderBy.Value
