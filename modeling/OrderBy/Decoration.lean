/-
  OrderBy.Decoration
  ──────────────────
  **READING THE KEY OF EVERY RECORD BEFORE SORTING.**

  Records are decorated with their keys: every distinct field is read once per
  record, in the order in which the expression names it first, and a field that
  occurs in several sort keys contributes its value to each of them.

      serial       record after record; the first fault ends everything
      concurrent   one task per record; a schedule says which task takes the next
                   reading; a generator gives the results out in the order of the
                   records, and the fault that leaves it is that of the first
                   record whose task failed

  Whatever the schedule, the collected result does not depend on it as long as
  readings depend on the record alone.  One fault does not leave a generator as it
  is: the end of an iteration.
-/
import OrderBy.Record.Accessor
import OrderBy.KeyOrder
import OrderBy.Log

namespace OrderBy

/-! ## §1. Events. -/

/-- What happens in the course of a sort. -/
inductive Event where
  | log (entry : LogEntry)
  /-- The reading of a field of the record at a position begins. -/
  | attempt (position : Nat) (field : String)
  | access (a : Access)
  /-- Whether the first of two records comes strictly before the second. -/
  | question (left right : Nat)
  | comparison (c : Comparison)

/-- A record with its position in the input and its key. -/
structure Decorated where
  position : Nat
  record : Record
  key : List Value

/-- The values that were read of a record, by field. -/
abbrev FieldValues : Type := List (String × Value)

/-- The key that some fields have: one value per field, repetitions included. -/
def FieldValues.key (fields : List String) (values : FieldValues) : List Value :=
  fields.map (fun f => (values.lookup f).getD .null)

variable {σ : Type}

/-! ## §2. One record. -/

/-- Read one field of the record at a position. -/
def readOne (position : Nat) (r : Record) (field : String) (accessor : Accessor σ) :
    Run σ Event Value := do
  Run.emit (.attempt position field)
  (accessor.read r).mapEvents .access

/-- Read some fields of the record at a position, in order. -/
def readFields (position : Nat) (r : Record) :
    List (String × Accessor σ) → Run σ Event FieldValues
  | [] => pure []
  | (f, accessor) :: rest => do
    let v ← readOne position r f accessor
    let vs ← readFields position r rest
    pure ((f, v) :: vs)

/-! ## §3. Serial decoration. -/

/-- Read the records one after the other, the first of them at a position. -/
def readSerially (accessors : List (String × Accessor σ)) :
    Nat → List Record → Run σ Event (List FieldValues)
  | _, [] => pure []
  | position, r :: rs => do
    let vs ← readFields position r accessors
    let rest ← readSerially accessors (position + 1) rs
    pure (vs :: rest)

/-! ## §4. Concurrent decoration. -/

/-- The state of the task that reads one record. -/
inductive Task (σ : Type) where
  /-- What was read, and what is still to be read. -/
  | reading (values : FieldValues) (pending : List (String × Accessor σ))
  | failed (fault : Fault)

namespace Task

/-- Let a task take its next reading.  A fault stays in the task. -/
def advance (position : Nat) (r : Record) : Task σ → Run σ Event (Task σ)
  | reading values ((f, accessor) :: pending) => do
    match ← (readOne position r f accessor).attempt with
    | .ok v => pure (reading (values ++ [(f, v)]) pending)
    | .error fault => pure (failed fault)
  | task => pure task

/-- The result of a task, which takes the readings that it still has to take. -/
def finish (position : Nat) (r : Record) : Task σ → Run σ Event FieldValues
  | reading values pending => do
    let rest ← readFields position r pending
    pure (values ++ rest)
  | failed fault => Run.fail fault

/-- Follow a schedule, which names for every step the task that takes it. -/
def interleave (records : List Record) : List Nat → List (Task σ) → Run σ Event (List (Task σ))
  | [], tasks => pure tasks
  | i :: schedule, tasks =>
    match records[i]?, tasks[i]? with
    | some r, some task => do
      let next ← task.advance i r
      interleave records schedule (tasks.set i next)
    | _, _ => interleave records schedule tasks

/-- Collect the results in order; the first fault ends the collection. -/
def collect : Nat → List (Record × Task σ) → Run σ Event (List FieldValues)
  | _, [] => pure []
  | position, (r, task) :: rest => do
    let vs ← task.finish position r
    let vss ← collect (position + 1) rest
    pure (vs :: vss)

end Task

/-- Read the records concurrently under a schedule.  The results are delivered by a
generator. -/
def readConcurrently (schedule : List Nat) (accessors : List (String × Accessor σ))
    (records : List Record) : Run σ Event (List FieldValues) := do
  let tasks ← Task.interleave records schedule (records.map (fun _ => .reading [] accessors))
  (Task.collect 0 (records.zip tasks)).mapFault .delivered

/-! ## §5. Decorated records. -/

/-- Join the records, numbered from a position on, with the values read of them. -/
def decorateFrom (fields : List String) : Nat → List Record → List FieldValues → List Decorated
  | position, r :: rs, vs :: vss =>
    ⟨position, r, vs.key fields⟩ :: decorateFrom fields (position + 1) rs vss
  | _, _, _ => []

/-- Read and decorate all records: concurrently if told to and there are several. -/
def decorate (concurrent : Bool) (schedule : List Nat) (fields : List String)
    (extractors : Extractors σ) (records : List Record) : Run σ Event (List Decorated) := do
  let accessors := Accessor.forFields extractors fields
  let values ←
    if concurrent && 1 < records.length then readConcurrently schedule accessors records
    else readSerially accessors 0 records
  pure (decorateFrom fields 0 records values)

end OrderBy
