/-
  OrderBy.Record.Extractor
  ────────────────────────
  **KINDS OF EXTRACTORS.**

  The extractors that can be named: simple computations on a record, one that
  fails on purpose, one that copies a value, and one that counts its calls.
  Calling one is observed.
-/
import OrderBy.Record.Accessor
import OrderBy.Value.Remainder

namespace OrderBy

/-- A computation on a record. -/
inductive Extractor where
  /-- The length of the record. -/
  | length
  /-- The record itself. -/
  | identity
  /-- The item at an index or key. -/
  | item (index : Value)
  /-- A copy of a value, another one on every call. -/
  | constant (value : Value)
  /-- A failure on every call. -/
  | failure (raises : Raised)
  /-- The number of the call: 1, 2, 3, … -/
  | counter
  /-- What the record has under a name. -/
  | get (name : Value)
  /-- That, with the other sign. -/
  | negated (name : Value)
  /-- That, in upper case. -/
  | uppercased (name : Value)
  /-- The remainder of that by a divisor. -/
  | remainder (name divisor : Value)

/-- How often extractors have been called that remember it, by field. -/
abbrev Tally : Type := List (String × Nat)

/-- Count one more call for a field; the result is its number. -/
def Tally.next (field : String) (tally : Tally) : Nat × Tally :=
  let n := (tally.lookup field).getD 0 + 1
  (n, (field, n) :: tally.filter (·.1 != field))

namespace Extractor

/-- What the extractor of a field computes. -/
def compute (field : String) (r : Record) : Extractor → Run Tally Access Value
  | length => Run.lift ((fun n => .int n) <$> Traced.ofExcept r.length)
  | identity => pure r.toValue
  | item index => Run.lift (r.item index)
  | constant v => (fun n => v.copied n) <$> Run.modifyGet (Tally.next field)
  | failure raises => Run.fail (.raised raises)
  | counter => (fun (n : Nat) => .int n) <$> Run.modifyGet (Tally.next field)
  | get name => Run.lift (r.readName name)
  | negated name => Run.lift do Traced.ofExcept (← r.readName name).negate
  | uppercased name => Run.lift do Traced.ofExcept (← r.readName name).upper
  | remainder name divisor =>
    Run.lift do Traced.ofExcept ((← r.readName name).remainder divisor)

/-- Call the extractor of a field. -/
def reading (field : String) (x : Extractor) : Reading Tally := fun r => do
  Run.emit (.call field)
  x.compute field r

/-- Register extractors; a name without one cannot be called. -/
def register (xs : List (String × Option Extractor)) : Extractors Tally :=
  xs.map (fun x => (x.1, x.2.map (reading x.1)))

end Extractor

end OrderBy
