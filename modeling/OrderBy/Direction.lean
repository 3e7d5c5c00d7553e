/-
  OrderBy.Direction
  ─────────────────
  **THE DIRECTION OF A SORT KEY.**

  A direction is ascending or descending and has a name, ASC or DESC.  A token of
  an expression is read leniently: whatever upper-cases to DESC is descending and
  every other token ascending, known or not.
-/
import OrderBy.Text.UpperCase

namespace OrderBy

/-- The direction in which a key orders records. -/
inductive Direction where
  | ascending
  | descending
  deriving DecidableEq, Repr

namespace Direction

/-- The name of a direction. -/
def name : Direction → String
  | ascending => "ASC"
  | descending => "DESC"

/-- The other direction. -/
def flip : Direction → Direction
  | ascending => descending
  | descending => ascending

/-- The direction of a name, which must be spelled exactly. -/
def ofName? (s : String) : Option Direction :=
  if s == "ASC" then some ascending
  else if s == "DESC" then some descending
  else none

/-- The direction that a token names in some case of letters, if it names one. -/
def named? (token : String) : Option Direction :=
  ofName? (String.ofList (Text.upperCase token.toList))

/-- The direction of a token: descending if its upper case is DESC. -/
def ofToken (token : String) : Direction :=
  if String.ofList (Text.upperCase token.toList) == "DESC" then descending else ascending

/-- A token is known if its upper case is the name of a direction. -/
def isKnownToken (token : String) : Bool := (named? token).isSome

end Direction

end OrderBy
