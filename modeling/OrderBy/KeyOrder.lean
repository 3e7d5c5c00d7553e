/-
  OrderBy.KeyOrder
  ────────────────
  **THE ORDER OF SORT KEYS.**

  Two values are compared by asking first whether one is less and then whether
  it is greater; if neither, they tie.  Two rows of values are compared position
  by position under a row of directions: a descending position exchanges its
  operands, the first position that does not tie decides, and positions beyond
  the shortest of the three rows do not count.

      threeWayRows [desc, asc] [1, "a"] [1, "b"]  =  less

  Every question that is put to a pair of values is an event.
-/
import OrderBy.Value.Order

namespace OrderBy

/-! ## §1. Two values. -/

/-- Ask a question of two values, and record that it was asked. -/
def askRecorded (question : Question) (a b : Value) : Traced Comparison Bool := do
  Traced.emit (.values a question b)
  a.ask question b

/-- The three-way comparison of two values. -/
def Value.threeWay (a b : Value) : Traced Comparison Ordering := do
  if ← askRecorded .less a b then pure .lt
  else if ← askRecorded .greater a b then pure .gt
  else pure .eq

/-- The comparison in a direction: descending compares the second value with the
first. -/
def Direction.threeWay : Direction → Value → Value → Traced Comparison Ordering
  | .ascending, a, b => Value.threeWay a b
  | .descending, a, b => Value.threeWay b a

/-! ## §2. Two rows of values. -/

/-- The comparison of two rows of values under a row of directions. -/
def threeWayRows : List Direction → List Value → List Value → Traced Comparison Ordering
  | d :: ds, a :: as, b :: bs => do
    match ← d.threeWay a b with
    | .eq => threeWayRows ds as bs
    | decided => pure decided
  | _, _, _ => pure .eq

/-- Whether the first row comes strictly before the second, which is the only
question that sorting asks. -/
def keyBefore (ds : List Direction) (as bs : List Value) : Traced Comparison Bool :=
  (· == .lt) <$> threeWayRows ds as bs

/-! ## §3. Rows given as values. -/

/-- The items of a value, which must be one that can be iterated over. -/
def Value.itemsOrFault (v : Value) : Except Fault (List Value) :=
  match v.items? with
  | some items => .ok items
  | none => .error (.notIterable v.typeName)

/-- The direction that a value stands for: itself, and ascending for everything
that is not a direction, the text DESC included. -/
def Value.asDirection : Value → Direction
  | .direction d => d
  | _ => .ascending

/-- The comparison of two rows under a row of directions, all three of them
values.  They are iterated over in the order directions, first row, second
row. -/
def threeWayOfValues (directions a b : Value) : Traced Comparison Ordering := do
  let ds ← Traced.ofExcept directions.itemsOrFault
  let as ← Traced.ofExcept a.itemsOrFault
  let bs ← Traced.ofExcept b.itemsOrFault
  threeWayRows (ds.map Value.asDirection) as bs

end OrderBy
