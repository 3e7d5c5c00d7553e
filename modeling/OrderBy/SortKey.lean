/-
  OrderBy.SortKey
  ───────────────
  **SORT KEYS AND SORT EXPRESSIONS.**

  A sort key is a field name with a direction.  Field names are exactly the
  non-empty texts without blanks and commas, which is part of the type: so the
  written form of a list of keys, `"size DESC, color ASC"`, can always be read
  back.  A sort expression is a text together with the non-empty list of keys it
  stands for, the primary key first.
-/
import OrderBy.Direction
import OrderBy.Text.Blank

namespace OrderBy

/-! ## §1. Field names. -/

/-- A character that may occur in a field name: neither a blank nor a comma. -/
def isFieldChar (c : Char) : Bool := !Text.isBlank c && c != ','

/-- A field name is a non-empty text of field characters. -/
def isFieldName (s : String) : Bool := !s.toList.isEmpty && s.toList.all isFieldChar

/-- Why a text is not a field name. -/
inductive FieldNameFault where
  | empty
  | blankOrComma
  deriving DecidableEq, Repr

/-! ## §2. Keys. -/

/-- A field to sort by and the direction to sort it in. -/
structure SortKey where
  field : String
  direction : Direction
  isFieldName_field : isFieldName field = true
  deriving DecidableEq

namespace SortKey

/-- The key of a field name. -/
def ofField (field : String) (direction : Direction) : Except FieldNameFault SortKey :=
  if h : isFieldName field = true then .ok ⟨field, direction, h⟩
  else if field.toList.isEmpty then .error .empty
  else .error .blankOrComma

/-- The written form of a key: its field, a space and its direction. -/
def render (k : SortKey) : String := k.field ++ " " ++ k.direction.name

/-- The same field in the other direction. -/
def flip (k : SortKey) : SortKey := { k with direction := k.direction.flip }

end SortKey

/-! ## §3. Expressions. -/

/-- A sort expression that has been read: its text and its keys. -/
structure Expression where
  text : String
  keys : List SortKey
  keys_ne_nil : keys ≠ []
  deriving DecidableEq

namespace Expression

/-- The fields, one per key. -/
def fields (e : Expression) : List String := e.keys.map SortKey.field

/-- The directions, one per key. -/
def directions (e : Expression) : List Direction := e.keys.map SortKey.direction

/-- The canonical form of a list of keys. -/
def renderKeys (keys : List SortKey) : String := ", ".intercalate (keys.map SortKey.render)

/-- The canonical form: every key with its direction, separated by a comma and a
space. -/
def canonical (e : Expression) : String := renderKeys e.keys

end Expression

end OrderBy
