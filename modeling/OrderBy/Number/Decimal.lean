/-
  OrderBy.Number.Decimal
  ──────────────────────
  **DECIMAL TEXT OF A DOUBLE, BOTH WAYS.**

  A double is written with the fewest decimal digits that read back as the same
  double, and among those with the digits nearest to it.  The search needs no
  floating point: the reals that round to a rank form an interval whose ends are
  whole numbers of half units, closed exactly if the rank is even, and on each
  decimal grid only the two neighbours of the value can be the answer.

      0.1 → "0.1"     2 ^ 53 → "9007199254740992.0"     10 ^ 16 → "1e+16"
-/
import OrderBy.Number.Binary64
import OrderBy.Text.Blank
import OrderBy.Text.DecimalDigit

namespace OrderBy

/-! ## §1. The shortest digits. -/

/-- The decimal number `digits · 10 ^ scale`. -/
structure Decimal where
  digits : Nat
  scale : Int
  deriving DecidableEq, Repr

namespace Decimal

/-- The three-way comparison of `d` with the fraction `num / den`. -/
def compareFraction (d : Decimal) (num den : Nat) : Ordering :=
  if 0 ≤ d.scale then compare (d.digits * Nat.pow 10 d.scale.toNat * den) num
  else compare (d.digits * den) (num * Nat.pow 10 (-d.scale).toNat)

/-- Whether `d` rounds to the rank: it lies between the midpoints to the
neighbouring doubles, the midpoints themselves counting for even ranks. -/
def roundsTo (d : Decimal) (rank : Nat) : Bool :=
  let here := Binary64.unitsOfRank rank
  let low := Binary64.unitsOfRank (rank - 1) + here
  let high := here + Binary64.unitsOfRank (rank + 1)
  let halves := 2 * Binary64.unitsPerOne
  let above := d.compareFraction low halves
  let below := d.compareFraction high halves
  if rank % 2 == 0 then above != .lt && below != .gt else above == .gt && below == .lt

/-- The exponent `e` with `10 ^ (e - 1) ≤ num / den < 10 ^ e`, for a positive
fraction: the difference of the digit counts, or one more. -/
def pointOf (num den : Nat) : Int :=
  let guess : Int := (Nat.toDigits 10 num).length - (Nat.toDigits 10 den).length
  if (Decimal.mk 1 guess).compareFraction num den != .gt then guess + 1 else guess

/-- The neighbour of the rank's value on the grid of multiples of `10 ^ scale`
that rounds to the rank; of two such the nearer, of two equally near the even
one. -/
def onGrid? (rank : Nat) (scale : Int) : Option Decimal :=
  let num := Binary64.unitsOfRank rank
  let den := Binary64.unitsPerOne
  let q := if 0 ≤ scale then num / (den * Nat.pow 10 scale.toNat)
    else num * Nat.pow 10 (-scale).toNat / den
  let lower : Decimal := ⟨q, scale⟩
  let upper : Decimal := ⟨q + 1, scale⟩
  match lower.roundsTo rank, upper.roundsTo rank with
  | false, false => none
  | true, false => some lower
  | false, true => some upper
  | true, true =>
    match (Decimal.mk (2 * q + 1) scale).compareFraction (2 * num) den with
    | .gt => some lower
    | .lt => some upper
    | .eq => some (if q % 2 == 0 then lower else upper)

/-- Move trailing zeros of the digits into the scale. -/
def stripZeros : Nat → Decimal → Decimal
  | 0, d => d
  | n + 1, d =>
    if d.digits != 0 && d.digits % 10 == 0 then stripZeros n ⟨d.digits / 10, d.scale + 1⟩ else d

/-- The shortest decimal that reads back as the rank; seventeen digits always
suffice. -/
def shortest (rank : Nat) : Decimal :=
  if rank == 0 then ⟨0, 0⟩
  else
    let point := pointOf (Binary64.unitsOfRank rank) Binary64.unitsPerOne
    let found := (List.range 17).findSome? (fun (k : Nat) => onGrid? rank (point - (k + 1 : Int)))
    stripZeros 20 (found.getD ⟨0, 0⟩)

/-! ## §2. Writing. -/

/-- Where positional writing ends: `point` is the number of digits in front of
the decimal point. -/
structure Layout where
  lowestPoint : Int
  highestPoint : Int
  exponentWidth : Nat

/-- Doubles are written positionally from 0.0001 up to sixteen digits in front of
the point, and always with a digit behind it; other exponents have a sign and at
least two digits. -/
def doubleLayout : Layout := ⟨-3, 16, 2⟩

/-- An exponent as it is written: its sign and its digits, of which there are at
least `width`. -/
def exponentText (width : Nat) (e : Int) : List Char :=
  let ds := Nat.toDigits 10 e.natAbs
  (if e < 0 then '-' else '+') :: List.replicate (width - ds.length) '0' ++ ds

/-- The text of a decimal number. -/
def render (layout : Layout) (d : Decimal) : List Char :=
  let ds := Nat.toDigits 10 d.digits
  let point := ds.length + d.scale
  if d.digits == 0 then ['0', '.', '0']
  else if layout.lowestPoint ≤ point && point ≤ layout.highestPoint then
    if point ≤ 0 then '0' :: '.' :: List.replicate (-point).toNat '0' ++ ds
    else if ds.length ≤ point.toNat then
      ds ++ List.replicate (point.toNat - ds.length) '0' ++ ['.', '0']
    else ds.take point.toNat ++ '.' :: ds.drop point.toNat
  else
    let mantissa := match ds with
      | [c] => [c]
      | c :: rest => c :: '.' :: rest
      | [] => []
    mantissa ++ 'e' :: exponentText layout.exponentWidth (point - 1)

end Decimal

/-- The text of a double. -/
def Binary64.render : Binary64 → List Char
  | .nan _ => ['n', 'a', 'n']
  | .infinite negative => (if negative then ['-'] else []) ++ ['i', 'n', 'f']
  | .finite negative rank =>
    (if negative then ['-'] else []) ++ (Decimal.shortest rank).render Decimal.doubleLayout

/-! ## §3. Reading. -/

/-- Whether the character is an ASCII digit. -/
def isDigit (c : Char) : Bool := '0' ≤ c && c ≤ '9'

/-- The number that ASCII digits write, most significant first. -/
def numberOfDigits (ds : List Char) : Nat :=
  ds.foldl (fun n c => 10 * n + (c.toNat - '0'.toNat)) 0

/-- Remove underscores, each of which must stand between two digits; the flag
says whether the character before was a digit. -/
def ungroup : Bool → List Char → Option (List Char)
  | _, [] => some []
  | afterDigit, c :: rest =>
    if c == '_' then
      match rest with
      | d :: _ => if afterDigit && isDigit d then ungroup false rest else none
      | [] => none
    else (c :: ·) <$> ungroup (isDigit c) rest

/-- Split off a sign. -/
def splitSign : List Char → Bool × List Char
  | '-' :: rest => (true, rest)
  | '+' :: rest => (false, rest)
  | s => (false, s)

/-- An exponent: a sign or none, and at least one digit. -/
def readExponent? (s : List Char) : Option Int :=
  let (negative, ds) := splitSign s
  if !ds.isEmpty && ds.all isDigit then some (Binary64.signed negative (numberOfDigits ds)) else none

/-- An unsigned decimal number: digits around an optional point, at least one of
them, and an optional exponent after the letter e. -/
def readDecimal? (s : List Char) : Option Decimal :=
  let whole := s.takeWhile isDigit
  let afterWhole := s.dropWhile isDigit
  let (fraction, rest) := match afterWhole with
    | '.' :: more => (more.takeWhile isDigit, more.dropWhile isDigit)
    | more => ([], more)
  if whole.isEmpty && fraction.isEmpty then none
  else
    let digits := numberOfDigits (whole ++ fraction)
    match rest with
    | [] => some ⟨digits, -(fraction.length : Int)⟩
    | c :: more =>
      if c == 'e' || c == 'E' then
        (readExponent? more).map (fun e => ⟨digits, e - fraction.length⟩)
      else none

/-- The double that a text writes: a decimal number, an infinity or a NaN, in any
case of letters, with an optional sign.  Blanks around it do not count, and its
digits may be those of any script.  A NaN gets the mark. -/
def Binary64.read? (mark : Identity) (s : List Char) : Option Binary64 :=
  let (negative, body) := splitSign ((Text.trimBy Text.isBlank s).map Text.asciiDigit)
  let lower := String.ofList (body.map Char.toLower)
  if lower == "inf" || lower == "infinity" then some (.infinite negative)
  else if lower == "nan" then some (.nan mark)
  else do
    let d ← readDecimal? (← ungroup false body)
    some (Binary64.ofDecimal negative d.digits d.scale)

end OrderBy
