/-
  OrderBy.Number.Places
  ─────────────────────
  **A DOUBLE TO A GIVEN NUMBER OF DIGITS.**

  Three styles, all rounded once from the exact value, a tie to the even digit:

      fixed        a number of digits behind the point        1234.50
      scientific   one digit in front of it, and an exponent   1.2345e+03
      general      a number of digits in all, fixed or scientific, whichever suits
                   the exponent; zeros at the end are left out

  An alternate form keeps the point, and in general style the zeros, where
  they could be left out.
-/
import OrderBy.Number.Decimal

namespace OrderBy

/-- The styles in which doubles are written. -/
inductive NumberStyle where
  | fixed
  | scientific
  | general
  deriving DecidableEq, Repr

namespace Places

/-- The digits of a number in a base, with zeros in front up to a width. -/
def padded (base width n : Nat) : List Char :=
  let ds := Nat.toDigits base n
  List.replicate (width - ds.length) '0' ++ ds

/-- Digits in front of and behind the point, which is left out if nothing stands
behind it and the form is not the alternate one. -/
def pointed (alternate : Bool) (whole fraction : List Char) : List Char :=
  if fraction.isEmpty && !alternate then whole else whole ++ '.' :: fraction

/-- Leave out the zeros at the end. -/
def withoutZeros (ds : List Char) : List Char := (ds.reverse.dropWhile (· == '0')).reverse

/-- The double of a rank with a number of digits behind the point. -/
def fixed (alternate : Bool) (places rank : Nat) : List Char :=
  let n := Binary64.roundHalfEven (Binary64.unitsOfRank rank * Nat.pow 10 places) Binary64.unitsPerOne
  let ds := padded 10 (places + 1) n
  pointed alternate (ds.take (ds.length - places)) (ds.drop (ds.length - places))

/-- The digits of the double of a rank, of which there are `count`, and the
exponent of the first. -/
def significant (count rank : Nat) : Nat × Int :=
  if rank == 0 then (0, 0)
  else
    let num := Binary64.unitsOfRank rank
    let den := Binary64.unitsPerOne
    let e := Decimal.pointOf num den - 1
    let scale := (count : Int) - 1 - e
    let n :=
      if 0 ≤ scale then Binary64.roundHalfEven (num * Nat.pow 10 scale.toNat) den
      else Binary64.roundHalfEven num (den * Nat.pow 10 (-scale).toNat)
    if n == Nat.pow 10 count then (Nat.pow 10 (count - 1), e + 1) else (n, e)

/-- Digits with an exponent. -/
def withExponent (alternate : Bool) (ds : List Char) (e : Int) : List Char :=
  pointed alternate (ds.take 1) (ds.drop 1) ++ 'e' :: Decimal.exponentText 2 e

/-- The double of a rank with an exponent and a number of digits behind the
point. -/
def scientific (alternate : Bool) (places rank : Nat) : List Char :=
  let (n, e) := significant (places + 1) rank
  withExponent alternate (padded 10 (places + 1) n) e

/-- The double of a rank with a number of digits in all, for which zero counts as
one.  An exponent is written if it is below -4, or not below that number. -/
def general (alternate : Bool) (places rank : Nat) : List Char :=
  let count := max places 1
  let (n, e) := significant count rank
  let ds := padded 10 count n
  let kept (digits : List Char) : List Char := if alternate then digits else withoutZeros digits
  if e < -4 || (count : Int) ≤ e then
    withExponent alternate (ds.take 1 ++ kept (ds.drop 1)) e
  else if e < 0 then
    pointed alternate ['0'] (kept (List.replicate (-e - 1).toNat '0' ++ ds))
  else pointed alternate (ds.take (e.toNat + 1)) (kept (ds.drop (e.toNat + 1)))

end Places

/-- The text of a double without its sign. -/
def Binary64.renderPlaces (style : NumberStyle) (alternate : Bool) (places : Nat) :
    Binary64 → List Char
  | .nan _ => ['n', 'a', 'n']
  | .infinite _ => ['i', 'n', 'f']
  | .finite _ rank =>
    match style with
    | .fixed => Places.fixed alternate places rank
    | .scientific => Places.scientific alternate places rank
    | .general => Places.general alternate places rank

end OrderBy
