/-
  OrderBy.Proofs.Reads
  ────────────────────
  **WHERE READINGS DEPEND ON THE RECORD ALONE, A SORT DOES NOT DEPEND ON THE STATE.**

  An extractor may remember earlier calls and yet always give the same value or
  fault for the same record.  If all extractors do, then every phase of a sort has
  from every state

      the same outcome          and          the same attempted readings,

  and so has the sort: being determined in this sense is passed on by sequencing.
-/
import OrderBy.Proofs.Phases

namespace OrderBy

variable {σ α β : Type}

/-! ## §1. Attempted readings. -/

/-- The reading that an event begins, if it begins one: a position and a field. -/
def Event.attempt? : Event → Option (Nat × String)
  | .attempt position field => some (position, field)
  | _ => none

/-- The readings that were attempted, in order. -/
def attempts (events : List Event) : List (Nat × String) := events.filterMap Event.attempt?

@[simp]
theorem attempts_append (es fs : List Event) : attempts (es ++ fs) = attempts es ++ attempts fs :=
  List.filterMap_append

/-- What an accessor does to a record is no reading of its own. -/
@[simp]
theorem attempts_access (accesses : List Access) : attempts (accesses.map .access) = [] := by
  induction accesses with
  | nil => rfl
  | cons a accesses ih => exact ih

/-! ## §2. Determined runs. -/

/-- A run whose outcome and attempted readings do not depend on the state. -/
structure Determined (r : Run σ Event α) : Prop where
  outcome : ∀ st st', r.outcome st = r.outcome st'
  attempts : ∀ st st', attempts (r.events st) = attempts (r.events st')

namespace Determined

theorem lift (t : Traced Event α) : Determined (Run.lift t : Run σ Event α) where
  outcome _ _ := rfl
  attempts _ _ := rfl

theorem pure (a : α) : Determined (Pure.pure a : Run σ Event α) where
  outcome _ _ := rfl
  attempts _ _ := rfl

/-- **Determined runs in sequence are determined.** -/
theorem bind {r : Run σ Event α} {f : α → Run σ Event β} (hr : Determined r)
    (hf : ∀ a, Determined (f a)) : Determined (r >>= f) where
  outcome := by
    intro st st'
    cases h : r.outcome st with
    | error e =>
        -- the same fault ends both runs
        have h' : r.outcome st' = .error e := (hr.outcome st' st).trans h
        rw [Run.outcome_bind_error h, Run.outcome_bind_error h']
    | ok a =>
        -- both go on with the same result, though maybe in different states
        have h' : r.outcome st' = .ok a := (hr.outcome st' st).trans h
        rw [Run.outcome_bind_ok h, Run.outcome_bind_ok h']
        exact (hf a).outcome _ _
  attempts := by
    intro st st'
    rw [Run.events_bind, Run.events_bind, attempts_append, attempts_append,
      hr.attempts st st', hr.outcome st st']
    cases r.outcome st' with
    | error e => rfl
    | ok a => rw [(hf a).attempts (r.final st) (r.final st')]

theorem map (g : α → β) {r : Run σ Event α} (hr : Determined r) : Determined (g <$> r) := by
  rw [← bind_pure_comp]
  exact hr.bind (fun a => Determined.pure (g a))

end Determined

/-! ## §3. A sort is determined. -/

/-- Every field of every record reads as the same value or fault from every state. -/
def RecordDetermined (extractors : Extractors σ) : Prop :=
  ∀ (f : String) (r : Record) (st st' : σ),
    ((Accessor.forField extractors f).read r).outcome st
      = ((Accessor.forField extractors f).read r).outcome st'

/-- An extractor may count its calls, if what it gives does not depend on the count. -/
theorem RecordDetermined.single (name : String) {reading : Reading σ}
    (h : ∀ r st st', (reading r).outcome st = (reading r).outcome st') :
    RecordDetermined [(name, some reading)] := by
  intro f r st st'
  unfold Accessor.forField
  rw [List.lookup_cons]
  -- under any other name the record is read by its own rules
  cases f == name with
  | true => exact h r st st'
  | false => rfl

variable {extractors : Extractors σ}

/-- A reading is attempted whatever the state is. -/
theorem RecordDetermined.readOne (h : RecordDetermined extractors) (position : Nat) (r : Record)
    (f : String) : Determined (readOne position r f (Accessor.forField extractors f)) where
  outcome := by
    intro st st'
    rw [readOne_outcome, readOne_outcome]
    exact h f r st st'
  attempts := by
    intro st st'
    have single : ∀ accesses : List Access,
        OrderBy.attempts (.attempt position f :: accesses.map .access) = [(position, f)] := by
      intro accesses
      exact congrArg ((position, f) :: ·) (attempts_access accesses)
    rw [readOne_events, readOne_events, single, single]

theorem RecordDetermined.readFields (h : RecordDetermined extractors) (position : Nat)
    (r : Record) (fields : List String) :
    Determined (readFields position r
      (fields.map (fun f => (f, Accessor.forField extractors f)))) := by
  induction fields with
  | nil => exact Determined.pure []
  | cons f fields ih =>
      exact (h.readOne position r f).bind (fun v => ih.bind (fun vs => Determined.pure _))

theorem RecordDetermined.readSerially (h : RecordDetermined extractors) (fields : List String)
    (records : List Record) :
    ∀ position : Nat, Determined (readSerially
      (fields.map (fun f => (f, Accessor.forField extractors f))) position records) := by
  induction records with
  | nil =>
      intro position
      exact Determined.pure []
  | cons r records ih =>
      intro position
      exact (h.readFields position r fields).bind (fun vs =>
        (ih (position + 1)).bind (fun rest => Determined.pure _))

/-- **A serial sort by some keys is determined.** -/
theorem RecordDetermined.sortByKeys (h : RecordDetermined extractors) {s : Sorter}
    (hserial : s.isConcurrent = .ok false) (schedule : List Nat) (source : Source)
    (keys : List SortKey) : Determined (s.sortByKeys schedule source keys extractors) := by
  unfold Sorter.sortByKeys
  refine (Determined.lift _).bind (fun records => ?_)
  -- without concurrency the schedule is not looked at
  rw [hserial]
  show Determined ((Pure.pure false : Run σ Event Bool) >>= _)
  rw [pure_bind, decorate_eq]
  refine (Determined.bind ?_ (fun rows => Determined.pure _)).bind (fun decorated => ?_)
  · exact h.readSerially (distinct (keys.map SortKey.field)) records 0
  · exact (Determined.lift _).bind (fun sorted =>
      (Determined.lift _).bind (fun _ => Determined.pure sorted))

/-- Sorting reads the expression first and then depends on its keys. -/
theorem sortBy_eq (source : Source) (criterion : Criterion) (extractors : Extractors σ) :
    sortBy source criterion extractors
      = Run.lift ((criterion.read Parser.standard).mapEvents .log) >>= fun e =>
          List.map Decorated.record <$> Sorter.standard.sortByKeys [] source e.keys extractors := by
  unfold sortBy Sorter.sort
  rw [Sorter.sortKeyed_eq, map_bind]
  rfl

/-- **Sorting is determined.** -/
theorem RecordDetermined.sortBy (h : RecordDetermined extractors) (source : Source)
    (criterion : Criterion) : Determined (sortBy source criterion extractors) := by
  rw [sortBy_eq]
  exact (Determined.lift _).bind (fun e =>
    (h.sortByKeys Sorter.isConcurrent_standard [] source e.keys).map _)

end OrderBy
