/-
  OrderBy.Record.Accessor
  ───────────────────────
  **WHICH WAY A FIELD IS READ.**

  An extractor registered under the name of a field wins; without one the record
  is read by its own rules.  An extractor is any computation on a record: it may
  read what it likes, fail, and remember earlier calls in the state `σ`.  What is
  registered need not be callable, which shows only when it is called.
-/
import OrderBy.Record

namespace OrderBy

/-- How a value is computed from a record. -/
abbrev Reading (σ : Type) : Type := Record → Run σ Access Value

/-- The extractors that are registered, by field name; a name may be registered
with nothing that can be called. -/
abbrev Extractors (σ : Type) : Type := List (String × Option (Reading σ))

/-- The way in which a field is read. -/
inductive Accessor (σ : Type) where
  /-- By the record itself, under this name. -/
  | field (name : String)
  /-- By an extractor. -/
  | extractor (reading : Reading σ)
  /-- By something that cannot be called. -/
  | uncallable

namespace Accessor

variable {σ : Type}

/-- The accessor of a field. -/
def forField (extractors : Extractors σ) (name : String) : Accessor σ :=
  match extractors.lookup name with
  | none => field name
  | some (some reading) => extractor reading
  | some none => uncallable

/-- The name of an accessor; extractors have none of their own. -/
def name? : Accessor σ → Option String
  | field name => some ("read_" ++ name)
  | extractor _ | uncallable => none

/-- Read a record. -/
def read : Accessor σ → Reading σ
  | field name, r => Run.lift (r.readField name)
  | extractor reading, r => reading r
  | uncallable, _ => Run.fail (.notCallable "NoneType")

end Accessor

/-- Some names without repetition, in the order of first occurrence. -/
def distinct : List String → List String
  | [] => []
  | x :: xs => x :: (distinct xs).filter (· != x)

/-- The accessors of some fields, one for each distinct field. -/
def Accessor.forFields {σ : Type} (extractors : Extractors σ) (fields : List String) :
    List (String × Accessor σ) :=
  (distinct fields).map (fun f => (f, Accessor.forField extractors f))

/-- Read a record through some accessors, in order. -/
def readThrough {σ : Type} (r : Record) :
    List (String × Accessor σ) → Run σ Access (List (String × Value))
  | [] => pure []
  | (f, accessor) :: rest => do
    let v ← accessor.read r
    let vs ← readThrough r rest
    pure ((f, v) :: vs)

end OrderBy
