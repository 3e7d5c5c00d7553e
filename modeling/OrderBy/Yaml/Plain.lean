/-
  OrderBy.Yaml.Plain
  ──────────────────
  **WHAT A PLAIN SCALAR MEANS.**

  A plain scalar stands for nothing, a truth value or a number if it is spelled
  like one, and for itself otherwise.

      nothing   ~ null Null NULL, and the empty scalar
      truth     true yes on, false no off, in lower, upper or title case
      integer   decimal, octal after 0, binary after 0b, hexadecimal after 0x, and
                base sixty between colons; underscores do not count
      double    with a point; an exponent has a sign; base sixty; .inf and .nan
-/
import OrderBy.Fault
import OrderBy.Number.Decimal
import OrderBy.Yaml.Scalar

namespace OrderBy.Yaml

/-! ## §1. Words. -/

/-- The spellings of nothing. -/
def nullWords : List String := ["", "~", "null", "Null", "NULL"]

/-- The spellings of true. -/
def trueWords : List String :=
  ["yes", "Yes", "YES", "true", "True", "TRUE", "on", "On", "ON"]

/-- The spellings of false. -/
def falseWords : List String :=
  ["no", "No", "NO", "false", "False", "FALSE", "off", "Off", "OFF"]

/-! ## §2. Digits. -/

/-- Whether a character may stand among the digits of a number. -/
def isDigitOrMark (c : Char) : Bool := isDigit c || c == '_'

/-- Whether a text is one of digits and underscores, beginning with a digit of a
class. -/
def isGrouped (first : Char → Bool) (s : List Char) : Bool :=
  s.head?.any first && s.all isDigitOrMark

/-- The text without underscores. -/
def withoutMarks (s : List Char) : List Char := s.filter (· != '_')

/-- Cut a text at its colons. -/
def atColons : List Char → List (List Char)
  | [] => [[]]
  | c :: rest =>
    if c == ':' then [] :: atColons rest
    else match atColons rest with
      | [] => [[c]]
      | part :: parts => (c :: part) :: parts

/-- A place in base sixty: one digit, or two of which the first is below six. -/
def isSixtieth : List Char → Bool
  | [c] => isDigit c
  | [c, d] => '0' ≤ c && c ≤ '5' && isDigit d
  | _ => false

/-- The number that digits of a base write. -/
def numberInBase (base : Nat) (ds : List Char) : Nat :=
  ds.foldl (fun n d => base * n + (hexDigit? d).getD 0) 0

/-! ## §3. Integers. -/

/-- A number after its base is known; there must be a digit. -/
def inBase (base : Nat) (s : List Char) : Except DocumentFault Nat :=
  let ds := withoutMarks s
  if ds.isEmpty then .error (.noDigits base) else .ok (numberInBase base ds)

/-- How many digits a decimal integer may have. -/
def digitLimit : Nat := 4300

/-- The number that decimal digits write, unless there are too many. -/
def decimalNatural (ds : List Char) : Except DocumentFault Nat :=
  if digitLimit < ds.length then .error (.tooManyDigits digitLimit ds.length)
  else .ok (numberOfDigits ds)

/-- The digits behind a zero and a letter, if they are all of a class. -/
def basedDigits? (letter : Char) (p : Char → Bool) : List Char → Option (List Char)
  | '0' :: c :: ds => if c == letter && !ds.isEmpty && ds.all p then some ds else none
  | _ => none

/-- The natural number that a text writes, if it is spelled like one. -/
def natural? (s : List Char) : Option (Except DocumentFault Nat) :=
  match basedDigits? 'b' (fun c => c == '0' || c == '1' || c == '_') s,
    basedDigits? 'x' (fun c => (hexDigit? c).isSome || c == '_') s with
  | some ds, _ => some (inBase 2 ds)
  | none, some ds => some (inBase 16 ds)
  | none, none =>
    if s.head? == some '0' then
      if s.all (fun c => ('0' ≤ c && c ≤ '7') || c == '_') then
        some (.ok (numberInBase 8 (withoutMarks s)))
      else none
    else match atColons s with
      | [] => none
      | whole :: places =>
        if isGrouped (fun c => isDigit c && c != '0') whole && places.all isSixtieth then
          some ((decimalNatural (withoutMarks whole)).map (fun leading =>
            places.foldl (fun n place => 60 * n + numberOfDigits place) leading))
        else none

/-- The integer that a text writes, if it is spelled like one. -/
def integer? (s : List Char) : Option (Except DocumentFault Value) :=
  let (negative, body) := splitSign s
  (natural? body).map (fun n => (fun n => .int (Binary64.signed negative n)) <$> n)

/-! ## §4. Doubles. -/

/-- Whether a text is empty or an exponent with a sign. -/
def isOptionalExponent : List Char → Bool
  | [] => true
  | e :: sign :: ds =>
    (e == 'e' || e == 'E') && (sign == '+' || sign == '-') && !ds.isEmpty && ds.all isDigit
  | _ => false

/-- The double that a text without sign and underscores writes. -/
def readDouble (s : List Char) : Binary64 := (Binary64.read? {} s).getD (Binary64.ofRank false 0)

/-- Add the places of a number in base sixty to a sum, the least significant place
first; each place counts sixty times the one before, as long as that is no more
than a double can be. -/
def addPlaces (sum : Binary64) (weight : Nat) : List Binary64 → Except DocumentFault Binary64
  | [] => .ok sum
  | x :: xs =>
    match Binary64.ofInt? weight with
    | none => .error .weightTooLarge
    | some w => addPlaces (sum.add (x.mul w)) (60 * weight) xs

/-- A number in base sixty: its places, the most significant first. -/
def sexagesimal (places : List Binary64) : Except DocumentFault Binary64 :=
  addPlaces (Binary64.ofRank false 0) 1 places.reverse

/-- The double that an unsigned text writes, if it is spelled like one; some
spellings do not admit a sign. -/
def unsignedDouble? (hasSign : Bool) (s : List Char) : Option (Except DocumentFault Binary64) :=
  let word := String.ofList s
  let whole := s.takeWhile (· != '.')
  match s.dropWhile (· != '.') with
  | [] => none
  | _ :: behind =>
    let fraction := behind.takeWhile isDigitOrMark
    let exponent := behind.dropWhile isDigitOrMark
    if [".inf", ".Inf", ".INF"].contains word then some (.ok (.infinite false))
    else if [".nan", ".NaN", ".NAN"].contains word then
      if hasSign then none else some (.ok (.nan {}))
    else if whole.isEmpty then
      if !hasSign && isGrouped isDigit fraction && isOptionalExponent exponent then
        some (.ok (readDouble (withoutMarks s)))
      else none
    else match atColons whole with
      | [_] =>
        if isGrouped isDigit whole && isOptionalExponent exponent then
          some (.ok (readDouble (withoutMarks s)))
        else none
      | first :: places =>
        if isGrouped isDigit first && places.all isSixtieth && exponent.isEmpty then
          some (sexagesimal ((atColons (withoutMarks s)).map readDouble))
        else none
      | [] => none

/-- The double that a text writes, if it is spelled like one. -/
def double? (s : List Char) : Option (Except DocumentFault Value) :=
  let hasSign := s.head? == some '-' || s.head? == some '+'
  let (negative, body) := splitSign s
  (unsignedDouble? hasSign body).map
    (fun x => (fun x => .float (if negative then x.negate else x)) <$> x)

/-! ## §5. Plain scalars. -/

/-- The value of a plain scalar.  A lone equals sign and a lone pair of less-than
signs are reserved. -/
def plainValue (s : List Char) : Except DocumentFault Value :=
  let word := String.ofList s
  if nullWords.contains word then .ok .null
  else if trueWords.contains word then .ok (.bool true)
  else if falseWords.contains word then .ok (.bool false)
  else if word == "=" || word == "<<" then .error .malformed
  else match double? s, integer? s with
    | some x, _ => x
    | none, some n => n
    | none, none => .ok (.text word)

end OrderBy.Yaml
