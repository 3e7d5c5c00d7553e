/-
  OrderBy.Validation
  ──────────────────
  **KEYS AND EXPRESSIONS MADE FROM NAMED FIELDS.**

  A thing with fields is made from entries, a value per field name; entries with
  other names are ignored.  Every field is checked, one that fails does not keep
  the next from being checked, and the issues are reported in the order of the
  fields.
-/
import OrderBy.Value.Conversion
import OrderBy.Expression.Parser

namespace OrderBy

/-! ## §1. Checked results. -/

/-- A result, or the issues that prevent it. -/
abbrev Checked (α : Type) : Type := Except (List Issue) α

namespace Checked

/-- Both results, or the issues of both. -/
def both {α β : Type} : Checked α → Checked β → Checked (α × β)
  | .ok a, .ok b => .ok (a, b)
  | .ok _, .error js => .error js
  | .error is, .ok _ => .error is
  | .error is, .error js => .error (is ++ js)

/-- The issues one step further away. -/
def below {α : Type} (step : Step) : Checked α → Checked α
  | .ok a => .ok a
  | .error is => .error (is.map (fun i => ⟨step :: i.path, i.rejection⟩))

/-- A converted value, or one issue at the place itself. -/
def ofConversion {α : Type} : Except Rejection α → Checked α
  | .ok a => .ok a
  | .error r => .error [⟨[], r⟩]

/-- The issues as a fault. -/
def toExcept {α : Type} : Checked α → Except Fault α
  | .ok a => .ok a
  | .error is => .error (.invalid is)

end Checked

/-- The named values that a thing is made from. -/
abbrev Entries : Type := List (Value × Value)

namespace Entries

/-- The value of a field, if there is an entry with its name. -/
def field? (es : Entries) (name : String) : Option Value := Value.getEntry? (.text name) es

/-- Check a field that must be there. -/
def required {α : Type} (es : Entries) (name : String) (check : Value → Checked α) : Checked α :=
  match es.field? name with
  | some v => Checked.below (.field name) (check v)
  | none => .error [⟨[.field name], .missing⟩]

/-- Check a field that may be left out. -/
def optional {α : Type} (es : Entries) (name : String) (default : α) (check : Value → Checked α) :
    Checked α :=
  match es.field? name with
  | some v => Checked.below (.field name) (check v)
  | none => .ok default

end Entries

/-! ## §2. Keys. -/

namespace SortKey

/-- A value given for the field of a key. -/
def checkField (v : Value) : Checked { s : String // isFieldName s = true } :=
  match v.toText with
  | .error r => .error [⟨[], r⟩]
  | .ok s =>
    if h : isFieldName s = true then .ok ⟨s, h⟩
    else .error [⟨[], .fieldName (if s.toList.isEmpty then .empty else .blankOrComma)⟩]

/-- The key with the given entries; it is ascending unless they say otherwise. -/
def ofEntries (es : Entries) : Checked SortKey :=
  let field := es.required "field" checkField
  let direction := es.optional "direction" Direction.ascending
    (fun v => Checked.ofConversion v.toDirection)
  match Checked.both field direction with
  | .ok (⟨s, h⟩, d) => .ok ⟨s, d, h⟩
  | .error is => .error is

/-- A value given for a key: a key, or a dictionary of its fields. -/
def ofValue : Value → Checked SortKey
  | .key k => .ok k
  | .dict es => ofEntries es
  | _ => .error [⟨[], .notKey⟩]

/-- Whether assigning to a name of a key is refused: keys do not change, but names
that begin with an underscore are not part of the key. -/
def assign (_ : SortKey) (name : String) : Checked Unit :=
  if name.startsWith "_" then .ok () else .error [⟨[.field name], .frozen⟩]

end SortKey

/-! ## §3. Expressions. -/

namespace Expression

/-- Check the items of a sequence of keys, the first of them at an index. -/
def checkKeysFrom : Nat → List Value → Checked (List SortKey)
  | _, [] => .ok []
  | i, v :: vs =>
    match Checked.both (Checked.below (.index i) (SortKey.ofValue v)) (checkKeysFrom (i + 1) vs) with
    | .ok (k, ks) => .ok (k :: ks)
    | .error is => .error is

/-- A value given for the keys: a sequence of keys, with at least one. -/
def checkKeys (v : Value) : Checked { ks : List SortKey // ks ≠ [] } :=
  match v.toSequence with
  | .error r => .error [⟨[], r⟩]
  | .ok vs =>
    match checkKeysFrom 0 vs with
    | .error is => .error is
    | .ok ks => if h : ks ≠ [] then .ok ⟨ks, h⟩ else .error [⟨[], .noKeys⟩]

/-- The expression with the given entries.  Its text is not read: it need not be
one that the keys could have been read from. -/
def ofEntries (es : Entries) : Checked Expression :=
  let text := es.required "expression" (fun v => Checked.ofConversion v.toText)
  let keys := es.required "keys" checkKeys
  match Checked.both text keys with
  | .ok (s, ⟨ks, h⟩) => .ok ⟨s, ks, h⟩
  | .error is => .error is

end Expression

end OrderBy
