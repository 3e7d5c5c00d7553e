/-
  OrderBy.Number.Binary64
  ───────────────────────
  **DOUBLE-PRECISION NUMBERS AS EXACT NUMBERS.**

  The non-negative finite doubles, in increasing order, are numbered 0, 1, 2, …:
  the number of a double is its *rank*.  Every finite double is a whole number of
  *units* of 2⁻¹⁰⁷⁴, the smallest positive one; so is every integer.  Exact
  comparison of integers and doubles is therefore comparison of integers, and no
  floating-point operation is used anywhere.

      units 0 = 0,   units 1 = 1,   units (rank of 1.0) = 2 ^ 1074

  Rounding goes the other way: from a fraction, in units, to the nearest rank,
  a tie to the even one.
-/
import OrderBy.Identity

namespace OrderBy

/-- The number of finite non-negative doubles, which is also the rank that the
next double would have if the exponent went on. -/
def finiteRanks : Nat := 2047 * Nat.pow 2 52

/-- A double: finite with a sign (so that there are two zeros), infinite, or not
a number.  Values that are not a number are told apart by their identities. -/
inductive Binary64 where
  | finite (negative : Bool) (rank : Fin finiteRanks)
  | infinite (negative : Bool)
  | nan (mark : Identity)
  deriving DecidableEq

namespace Binary64

/-! ## §1. Units. -/

/-- How many units of 2⁻¹⁰⁷⁴ make the double of a rank. -/
def unitsOfRank (rank : Nat) : Nat :=
  if rank < Nat.pow 2 52 then rank
  else (Nat.pow 2 52 + rank % Nat.pow 2 52) * Nat.pow 2 (rank / Nat.pow 2 52 - 1)

/-- The number of units in the integer one. -/
def unitsPerOne : Nat := Nat.pow 2 1074

/-- A sign applied to a natural number. -/
def signed (negative : Bool) (n : Nat) : Int := if negative then -(n : Int) else n

/-! ## §2. Rounding. -/

/-- The nearest integer to a fraction; of two equally near ones the even one. -/
def roundHalfEven (num den : Nat) : Nat :=
  let q := num / den
  let r := num % den
  if 2 * r < den then q
  else if den < 2 * r then q + 1
  else if q % 2 == 0 then q else q + 1

/-- The rank nearest to `num / den` units, of two equally near ones the even one;
the exponent goes on beyond the finite ranks. -/
def rankOfUnits (num den : Nat) : Nat :=
  let whole := num / den
  let shift := if whole < Nat.pow 2 53 then 0 else whole.log2 - 52
  shift * Nat.pow 2 52 + roundHalfEven num (den * Nat.pow 2 shift)

/-- A rank with a sign, infinite if the rank is beyond the finite ones. -/
def ofRank (negative : Bool) (rank : Nat) : Binary64 :=
  if h : rank < finiteRanks then .finite negative ⟨rank, h⟩ else .infinite negative

/-- The double nearest to `num / den`. -/
def ofFraction (negative : Bool) (num den : Nat) : Binary64 :=
  ofRank negative (rankOfUnits (num * unitsPerOne) den)

/-- The double nearest to an integer, if there is a finite one as near. -/
def ofInt? (n : Int) : Option Binary64 :=
  match ofFraction (n < 0) n.natAbs 1 with
  | .infinite _ => none
  | x => some x

/-- The double nearest to a whole number of units. -/
def ofUnits (n : Int) : Binary64 := ofRank (n < 0) (rankOfUnits n.natAbs 1)

/-- The double nearest to `digits · 10 ^ exponent`.  Exponents so large or small
that every such number overflows or vanishes are settled without the power. -/
def ofDecimal (negative : Bool) (digits : Nat) (exponent : Int) : Binary64 :=
  if digits == 0 then ofRank negative 0
  else
    let magnitude := exponent + (Nat.toDigits 10 digits).length
    if magnitude > 400 then .infinite negative
    else if magnitude < -400 then ofRank negative 0
    else if 0 ≤ exponent then ofFraction negative (digits * Nat.pow 10 exponent.toNat) 1
    else ofFraction negative digits (Nat.pow 10 (-exponent).toNat)

/-! ## §3. Parts and arithmetic. -/

/-- The finite value in units. -/
def units? : Binary64 → Option Int
  | .finite negative rank => some (signed negative (unitsOfRank rank))
  | _ => none

/-- Whether the number is zero, of either sign. -/
def isZero : Binary64 → Bool
  | .finite _ rank => rank.val == 0
  | _ => false

/-- The number with the other sign. -/
def negate : Binary64 → Binary64
  | .finite negative rank => .finite (!negative) rank
  | .infinite negative => .infinite (!negative)
  | .nan mark => .nan mark

/-- The integer that the number is, if it is one. -/
def toInt? (x : Binary64) : Option Int :=
  match x.units? with
  | some n => if n % unitsPerOne == 0 then some (n / unitsPerOne) else none
  | none => none

/-- The integer between the number and zero that is nearest to it. -/
def truncate? (x : Binary64) : Option Int := x.units?.map (·.tdiv unitsPerOne)

/-- The sign of a number. -/
def isNegative : Binary64 → Bool
  | .finite negative _ => negative
  | .infinite negative => negative
  | .nan _ => false

/-- The rounded sum. -/
def add : Binary64 → Binary64 → Binary64
  | .nan m, _ => .nan m
  | _, .nan m => .nan m
  | .infinite n, .infinite k => if n == k then .infinite n else .nan {}
  | .infinite n, _ => .infinite n
  | _, .infinite n => .infinite n
  | x, y => ofUnits (x.units?.getD 0 + y.units?.getD 0)

/-- The rounded product. -/
def mul : Binary64 → Binary64 → Binary64
  | .nan m, _ => .nan m
  | _, .nan m => .nan m
  | .infinite n, y => if y.isZero then .nan {} else .infinite (n != y.isNegative)
  | x, .infinite n => if x.isZero then .nan {} else .infinite (x.isNegative != n)
  | .finite n x, .finite k y =>
    ofRank (n != k) (rankOfUnits (unitsOfRank x * unitsOfRank y) unitsPerOne)

/-- The remainder with the sign of the divisor: the exact remainder of the
division toward zero, moved by the divisor and rounded if the signs differ. -/
def floorMod : Binary64 → Binary64 → Binary64
  | .nan m, _ => .nan m
  | _, .nan m => .nan m
  | .infinite _, _ => .nan {}
  | x, .infinite n =>
    if x.isZero then ofRank n 0
    else if x.isNegative == n then x else .infinite n
  | x, y =>
    let a := x.units?.getD 0
    let b := y.units?.getD 0
    let r := a.tmod b
    if r == 0 then ofRank y.isNegative 0
    else if (r < 0) == (b < 0) then ofUnits r
    else ofUnits (r + b)

end Binary64

end OrderBy
