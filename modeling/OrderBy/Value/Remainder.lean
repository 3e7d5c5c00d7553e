/-
  OrderBy.Value.Remainder
  ───────────────────────
  **REMAINDERS.**

  The remainder of two numbers has the sign of the divisor, and is exact for
  integers.  Of a text or bytes it is something else: the text is a template, and
  the other operand holds what its places are filled in with.
-/
import OrderBy.Value.Template

namespace OrderBy.Value

/-- The remainder of the division of `v` by `w`, or the template `v` filled in with
`w`. -/
def remainder (v w : Value) : Except Fault Value :=
  match v, v.int?, w.int? with
  | _, some m, some n =>
    if n == 0 then .error .remainderByZero else .ok (int (m.fmod n))
  | text s, _, _ => (fun s => text (String.ofList s)) <$> Template.fill .text s.toList w
  | direction d, _, _ => (fun s => text (String.ofList s)) <$> Template.fill .text d.name.toList w
  | bytes bs, _, _ =>
    (fun s => bytes (Template.toBytes s)) <$> Template.fill .bytes (Template.ofBytes bs) w
  | _, _, _ =>
    match v.toDouble?, w.toDouble? with
    | some x, some y => do
      let x ← x
      let y ← y
      if y.isZero then .error .doubleRemainderByZero else .ok (float (x.floorMod y))
    | _, _ => .error (.noRemainder v.typeName w.typeName)

end OrderBy.Value
