/-
  OrderBy.Record
  ──────────────
  **RECORDS AND HOW THEY ARE READ.**

  A record is a plain value, an object with attributes, or a mapping that is no
  dictionary.  A mapping may have attributes too: it is read by key all the same,
  and a key that it lacks is missing whatever its attributes are called.

      plain dictionary   by key
      mapping            by key, observed
      object             by attribute, observed
      any other value    by attribute, of which values have next to none

  An observed reading leaves an event, whether it finds something or not.
-/
import OrderBy.Traced
import OrderBy.Value.Operation

namespace OrderBy

/-! ## §1. Records. -/

/-- What a record is made of. -/
inductive RecordBody where
  | plain (value : Value)
  | object (attributes : List (String × Value))
  /-- A mapping with entries and, besides, attributes. -/
  | mapping (entries attributes : List (String × Value))

/-- A record and the number that tells it apart from all others. -/
structure Record where
  id : Nat
  body : RecordBody

/-- An observed access to a record. -/
inductive Access where
  /-- A key or an attribute of a record was looked up. -/
  | lookup (record : Nat) (name : Value)
  /-- The extractor of a field was called. -/
  | call (field : String)

namespace Record

/-- What messages call the class of objects. -/
def objectClass : String := "Record"

/-- What messages call the class of mappings. -/
def mappingClass : String := "Mapping"

/-- The record as a value. -/
def toValue (r : Record) : Value :=
  match r.body with
  | .plain v => v
  | .object _ => .object objectClass r.id
  | .mapping _ _ => .object mappingClass r.id

/-! ## §2. Reading. -/

/-- The value under a key of a mapping. -/
def entry (entries : List (String × Value)) (key : Value) : Except Fault Value :=
  match key.unhashable? with
  | some typeName => .error (.item (.unhashable typeName))
  | none =>
    match key.text?.bind (fun name => entries.lookup name) with
    | some v => .ok v
    | none => .error (.missingKey key)

/-- Look something up in a record that observes it. -/
def observed (r : Record) (name : Value) (found : Except Fault Value) : Traced Access Value := do
  Traced.emit (.lookup r.id name)
  Traced.ofExcept found

/-- The attribute of a record, whose name must be a text. -/
def readAttribute (r : Record) (name : Value) : Traced Access Value :=
  let find (className s : String) (attributes : List (String × Value)) : Except Fault Value :=
    match attributes.lookup s with
    | some v => .ok v
    | none => .error (.missingAttribute className s)
  match r.body, name.text? with
  | .plain v, _ => Traced.ofExcept (v.attributeOf name)
  | _, none => Traced.fail (.attributeNameNotText name.typeName)
  | .object attributes, some s => r.observed (.text s) (find objectClass s attributes)
  | .mapping _ attributes, some s => Traced.ofExcept (find mappingClass s attributes)

/-- The value under a name: by key in a dictionary or mapping, and by attribute in
everything else. -/
def readName (r : Record) (name : Value) : Traced Access Value :=
  match r.body with
  | .plain (.dict entries) => Traced.ofExcept (Value.entryOf entries name)
  | .mapping entries _ => r.observed name (entry entries name)
  | _ => r.readAttribute name

/-- The value of a field. -/
def readField (r : Record) (field : String) : Traced Access Value := r.readName (.text field)

/-- The item of a record at an index or key. -/
def item (r : Record) (index : Value) : Traced Access Value :=
  match r.body with
  | .plain v => Traced.ofExcept (v.item index)
  | .object _ => Traced.fail (.item (.notSubscriptable objectClass))
  | .mapping entries _ => r.observed index (entry entries index)

/-- The length of a record. -/
def length (r : Record) : Except Fault Nat :=
  match r.body with
  | .plain v => v.length
  | .object _ => .error (.noLength objectClass)
  | .mapping entries _ => .ok entries.length

/-! ## §3. Changing. -/

/-- Put a value under a name, in the place where the name is or at the end. -/
def putName (name : String) (v : Value) : List (String × Value) → List (String × Value)
  | [] => [(name, v)]
  | (n, w) :: rest => if n == name then (n, v) :: rest else (n, w) :: putName name v rest

/-- The record with a field changed: an attribute of an object, an entry of a
dictionary or mapping.  Other values have no field to change. -/
def setField (r : Record) (field : String) (v : Value) : Record :=
  match r.body with
  | .plain (.dict entries) => ⟨r.id, .plain (.dict (Value.putEntry (.text field) v entries))⟩
  | .object attributes => ⟨r.id, .object (putName field v attributes)⟩
  | .mapping entries attributes => ⟨r.id, .mapping (putName field v entries) attributes⟩
  | .plain _ => r

end Record

end OrderBy
