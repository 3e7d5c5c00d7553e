/-
  OrderBy.Value.Operation
  ───────────────────────
  **WHAT EXTRACTORS DO WITH VALUES.**

  Length, items, attributes, upper case and negation of a dynamic value.  Each is
  defined for the types that have it and fails for all others with a fault that
  names the type.
-/
import OrderBy.Fault

namespace OrderBy.Value

/-! ## §1. Length and items. -/

/-- The number of characters, bytes, items, members or entries. -/
def length : Value → Except Fault Nat
  | text s => .ok s.length
  | direction d => .ok d.name.length
  | bytes bs => .ok bs.length
  | list xs | tuple xs | set xs => .ok xs.length
  | dict es => .ok es.length
  | v => .error (.noLength v.typeName)

/-- An index that is beyond this, in either direction, is too large for any
sequence. -/
def indexBound : Int := Nat.pow 2 63

/-- The item at an index of a sequence, a negative index counting from the end. -/
def itemAt {α : Type} (container : String) (items : List α) (i : Int) : Except ItemFault α :=
  if i < -indexBound || indexBound ≤ i then .error .indexTooLarge
  else
    let place := if i < 0 then i + items.length else i
    match if place < 0 then none else items[place.toNat]? with
    | some x => .ok x
    | none => .error (.outOfRange container)

/-- The item that a value which must be an integer selects from a sequence. -/
def itemOf {α : Type} (container : String) (items : List α) (index : Value) :
    Except ItemFault α :=
  match index.int? with
  | some i => itemAt container items i
  | none => .error (.indexNotInteger container index.typeName)

/-- The value at a key of a dictionary. -/
def entryOf (entries : List (Value × Value)) (key : Value) : Except Fault Value :=
  match key.unhashable? with
  | some typeName => .error (.item (.unhashable typeName))
  | none =>
    match getEntry? key entries with
    | some v => .ok v
    | none => .error (.missingKey key)

/-- The item of a value at an index or key. -/
def item (v index : Value) : Except Fault Value :=
  let inSequence {α : Type} (items : List α) (wrap : α → Value) : Except Fault Value :=
    match itemOf v.typeName items index with
    | .ok x => .ok (wrap x)
    | .error fault => .error (.item fault)
  match v with
  | text s => inSequence s.toList (fun c => text c.toString)
  | direction d => inSequence d.name.toList (fun c => text c.toString)
  | bytes bs => inSequence bs (fun b => int b.toNat)
  | list xs | tuple xs => inSequence xs id
  | dict es => entryOf es index
  | _ => .error (.item (.notSubscriptable v.typeName))

/-! ## §2. Attributes. -/

/-- The attribute of a value.  Keys and directions have some; of all other values
none is known. -/
def attributeOf (v name : Value) : Except Fault Value :=
  match v, name.text? with
  | _, none => .error (.attributeNameNotText name.typeName)
  | key k, some "field" => .ok (text k.field)
  | key k, some "direction" => .ok (direction k.direction)
  | key k, some "descending" => .ok (bool (k.direction == .descending))
  | key _, some _ => .error (.missingPart name)
  | direction d, some "name" | direction d, some "value" => .ok (text d.name)
  | direction _, some s =>
    match Direction.ofName? s with
    | some d => .ok (direction d)
    | none => .error (.missingAttribute v.typeName s)
  | _, some s => .error (.missingAttribute v.typeName s)

/-- The upper case of a text, or of the ASCII letters among bytes. -/
def upper : Value → Except Fault Value
  | text s => .ok (text (String.ofList (Text.upperCase s.toList)))
  | direction d => .ok (text (String.ofList (Text.upperCase d.name.toList)))
  | bytes bs =>
    .ok (bytes (bs.map (fun b => if 0x61 ≤ b && b ≤ 0x7A then b - 0x20 else b)))
  | v => .error (.missingAttribute v.typeName "upper")

/-- The direction of a token of any type: descending exactly for a text whose
upper case is DESC. -/
def directionOfToken (token : Value) : Except Fault Direction := do
  match ← token.upper with
  | text s => pure (if s == "DESC" then .descending else .ascending)
  | _ => pure .ascending

/-! ## §3. Arithmetic. -/

/-- The number with the other sign. -/
def negate (v : Value) : Except Fault Value :=
  match v, v.int? with
  | _, some n => .ok (int (-n))
  | float x, _ => .ok (float x.negate)
  | _, _ => .error (.notNegatable v.typeName)

/-- The double nearest to a number, which must not be too large. -/
def toDouble? (v : Value) : Option (Except Fault Binary64) :=
  match v, v.int? with
  | float x, _ => some (.ok x)
  | _, some n =>
    match Binary64.ofInt? n with
    | some x => some (.ok x)
    | none => some (.error .integerTooLarge)
  | _, _ => none

end OrderBy.Value
