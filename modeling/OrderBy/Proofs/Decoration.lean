/-
  OrderBy.Proofs.Decoration
  ─────────────────────────
  **DECORATION KEEPS EVERY RECORD, IN ITS PLACE, AND GIVES IT A FULL KEY.**

  However the fields are read, serially or under a schedule, a decoration that
  succeeds numbers the records in their order and gives each of them one key
  value per sort key.

  Where every reading gives the same value from every state on, the key of a
  record is the row of these values, repeated fields included.
-/
import OrderBy.Decoration
import OrderBy.Proofs.Outcome
import Mathlib.Data.List.Basic

namespace OrderBy

variable {σ : Type}

/-! ## §1. As many rows as records. -/

theorem readSerially_length {accessors : List (String × Accessor σ)} :
    ∀ {records : List Record} {position : Nat} {st : σ} {rows : List FieldValues},
      (readSerially accessors position records).outcome st = .ok rows →
      rows.length = records.length
  | [], _, _, rows, h => by
      obtain rfl : [] = rows := Except.ok.inj h
      rfl
  | r :: records, position, st, rows, h => by
      obtain ⟨vs, _, h⟩ := Run.outcome_bind_eq_ok h
      obtain ⟨rest, hrest, h⟩ := Run.outcome_bind_eq_ok h
      obtain rfl : vs :: rest = rows := Except.ok.inj h
      rw [List.length_cons, readSerially_length hrest, List.length_cons]

/-- A schedule changes the state of tasks, not their number. -/
theorem Task.interleave_length {records : List Record} :
    ∀ {schedule : List Nat} {tasks after : List (Task σ)} {st : σ},
      (Task.interleave records schedule tasks).outcome st = .ok after →
      after.length = tasks.length
  | [], tasks, after, _, h => by
      obtain rfl : tasks = after := Except.ok.inj h
      rfl
  | i :: schedule, tasks, after, st, h => by
      unfold Task.interleave at h
      split at h
      · obtain ⟨next, _, h⟩ := Run.outcome_bind_eq_ok h
        rw [Task.interleave_length h, List.length_set]
      · exact Task.interleave_length h

theorem Task.collect_length :
    ∀ {work : List (Record × Task σ)} {position : Nat} {st : σ} {rows : List FieldValues},
      (Task.collect position work).outcome st = .ok rows → rows.length = work.length
  | [], _, _, rows, h => by
      obtain rfl : [] = rows := Except.ok.inj h
      rfl
  | (r, task) :: work, position, st, rows, h => by
      obtain ⟨vs, _, h⟩ := Run.outcome_bind_eq_ok h
      obtain ⟨rest, hrest, h⟩ := Run.outcome_bind_eq_ok h
      obtain rfl : vs :: rest = rows := Except.ok.inj h
      rw [List.length_cons, Task.collect_length hrest, List.length_cons]

theorem readConcurrently_length {schedule : List Nat} {accessors : List (String × Accessor σ)}
    {records : List Record} {st : σ} {rows : List FieldValues}
    (h : (readConcurrently schedule accessors records).outcome st = .ok rows) :
    rows.length = records.length := by
  obtain ⟨tasks, htasks, h⟩ := Run.outcome_bind_eq_ok h
  have sizes := Task.interleave_length htasks
  rw [List.length_map] at sizes
  rw [Run.outcome_mapFault] at h
  rw [Task.collect_length (mapError_eq_ok.mp h), List.length_zip, sizes, Nat.min_self]

/-! ## §2. The shape of a decoration. -/

/-- The decoration of some records, each in its place and with a key of the given
length. -/
structure Decorates (width : Nat) (records : List Record) (decorated : List Decorated) : Prop where
  positions : decorated.map Decorated.position = List.range records.length
  records : decorated.map Decorated.record = records
  keys : ∀ d ∈ decorated, d.key.length = width

theorem FieldValues.key_length (fields : List String) (values : FieldValues) :
    (values.key fields).length = fields.length :=
  List.length_map _

theorem decorateFrom_shape (fields : List String) :
    ∀ {records : List Record} {rows : List FieldValues} (position : Nat),
      rows.length = records.length →
      (decorateFrom fields position records rows).map Decorated.position
          = List.range' position records.length
        ∧ (decorateFrom fields position records rows).map Decorated.record = records
        ∧ ∀ d ∈ decorateFrom fields position records rows, d.key.length = fields.length
  | [], rows, position, _ => by
      refine ⟨rfl, rfl, fun d hd => ?_⟩
      cases hd
  | r :: records, [], _, h => by cases h
  | r :: records, row :: rows, position, h => by
      obtain ⟨hpos, hrec, hkey⟩ :=
        decorateFrom_shape fields (position + 1) (Nat.succ.inj h : rows.length = records.length)
      refine ⟨?_, ?_, fun d hd => ?_⟩
      · show position :: _ = _
        rw [hpos]
        rfl
      · show r :: _ = _
        rw [hrec]
      · rcases List.mem_cons.mp hd with rfl | hd
        · exact FieldValues.key_length fields row
        · exact hkey d hd

/-- The rows that are read of the records, serially or under a schedule. -/
def readRows (concurrent : Bool) (schedule : List Nat) (accessors : List (String × Accessor σ))
    (records : List Record) : Run σ Event (List FieldValues) :=
  if concurrent && 1 < records.length then readConcurrently schedule accessors records
  else readSerially accessors 0 records

/-- Decoration reads all rows and then joins them with the records. -/
theorem decorate_eq (concurrent : Bool) (schedule : List Nat) (fields : List String)
    (extractors : Extractors σ) (records : List Record) :
    decorate concurrent schedule fields extractors records
      = readRows concurrent schedule (Accessor.forFields extractors fields) records
          >>= fun rows => pure (decorateFrom fields 0 records rows) := by
  unfold decorate readRows
  split <;> rfl

/-- **A decoration that succeeds numbers the records and completes their keys.** -/
theorem decorate_shape {concurrent : Bool} {schedule : List Nat} {fields : List String}
    {extractors : Extractors σ} {records : List Record} {st : σ} {decorated : List Decorated}
    (h : (decorate concurrent schedule fields extractors records).outcome st = .ok decorated) :
    Decorates fields.length records decorated := by
  rw [decorate_eq] at h
  obtain ⟨rows, hrows, h⟩ := Run.outcome_bind_eq_ok h
  obtain rfl := Except.ok.inj h
  -- rows and records are joined in pairs, so none is lost only if there are as many
  have size : rows.length = records.length := by
    unfold readRows at hrows
    split at hrows
    · exact readConcurrently_length hrows
    · exact readSerially_length hrows
  obtain ⟨hpos, hrec, hkey⟩ := decorateFrom_shape fields 0 size
  exact ⟨by rw [hpos, List.range_eq_range'], hrec, hkey⟩

/-- The positions of a decoration increase. -/
theorem Decorates.increasing {width : Nat} {records : List Record} {decorated : List Decorated}
    (h : Decorates width records decorated) :
    decorated.Pairwise (fun x y => x.position < y.position) := by
  have increasing := List.pairwise_lt_range (n := records.length)
  rw [← h.positions, List.pairwise_map] at increasing
  exact increasing

/-- A decorated record is the record at its position. -/
theorem Decorates.record_at {width : Nat} {records : List Record} {decorated : List Decorated}
    (h : Decorates width records decorated) :
    ∀ d ∈ decorated, records[d.position]? = some d.record := by
  intro d hd
  obtain ⟨i, hi, rfl⟩ := List.getElem_of_mem hd
  have position : decorated[i].position = i := by
    have same := List.getElem_of_eq h.positions (by rwa [List.length_map])
    rwa [List.getElem_map, List.getElem_range] at same
  have records_i := congrArg (fun rs => rs[i]?) h.records
  simp only [List.getElem?_map, List.getElem?_eq_getElem hi, Option.map_some] at records_i
  rw [position, ← records_i]

/-! ## §3. Readings that always give the same value. -/

/-- Each of these fields of each of these records reads as this value, from every
state on. -/
def ReadsAs (extractors : Extractors σ) (fields : List String) (records : List Record)
    (value : Record → String → Value) : Prop :=
  ∀ r ∈ records, ∀ f ∈ fields, ∀ st : σ,
    ((Accessor.forField extractors f).read r).outcome st = .ok (value r f)

theorem ReadsAs.mono {extractors : Extractors σ} {fields fields' : List String}
    {records records' : List Record} {value : Record → String → Value}
    (h : ReadsAs extractors fields records value) (hf : ∀ f ∈ fields', f ∈ fields)
    (hr : ∀ r ∈ records', r ∈ records) : ReadsAs extractors fields' records' value :=
  fun r hr' f hf' => h r (hr r hr') f (hf f hf')

theorem mem_distinct (f : String) : ∀ {fields : List String}, f ∈ distinct fields ↔ f ∈ fields
  | [] => Iff.rfl
  | g :: fields => by
      unfold distinct
      rw [List.mem_cons, List.mem_cons, List.mem_filter, mem_distinct f]
      -- the head is kept, and taken out of what follows
      by_cases h : f = g
      · simp [h]
      · simp [h]

/-- A field that is in the list is found with its value. -/
theorem lookup_of_mem {f : String} (value : String → Value) :
    ∀ {fields : List String}, f ∈ fields →
      (fields.map (fun g => (g, value g))).lookup f = some (value f)
  | g :: fields, h => by
      rw [List.map_cons, List.lookup_cons]
      by_cases hfg : f = g
      · subst hfg
        rw [beq_self_eq_true]
      · rw [beq_eq_false_iff_ne.mpr hfg]
        exact lookup_of_mem value ((List.mem_cons.mp h).resolve_left hfg)

/-- The key made of the values of the distinct fields has the value of every field. -/
theorem FieldValues.key_distinct (fields : List String) (value : String → Value) :
    FieldValues.key fields ((distinct fields).map (fun f => (f, value f)))
      = fields.map value := by
  unfold FieldValues.key
  refine List.map_congr_left (fun f hf => ?_)
  rw [lookup_of_mem value ((mem_distinct f).mpr hf)]
  rfl

@[simp]
theorem readOne_outcome (position : Nat) (r : Record) (f : String) (accessor : Accessor σ)
    (st : σ) : (readOne position r f accessor).outcome st = (accessor.read r).outcome st :=
  Run.outcome_bind_ok rfl _

@[simp]
theorem readOne_final (position : Nat) (r : Record) (f : String) (accessor : Accessor σ)
    (st : σ) : (readOne position r f accessor).final st = (accessor.read r).final st :=
  Run.final_bind_ok rfl _

/-- A reading is attempted, and then the accessor does what it does. -/
@[simp]
theorem readOne_events (position : Nat) (r : Record) (f : String) (accessor : Accessor σ)
    (st : σ) :
    (readOne position r f accessor).events st
      = .attempt position f :: ((accessor.read r).events st).map .access := by
  unfold readOne
  rw [Run.events_bind]
  rfl

theorem readFields_readsAs {extractors : Extractors σ} {value : Record → String → Value}
    {position : Nat} {r : Record} :
    ∀ {fields : List String} (st : σ), ReadsAs extractors fields [r] value →
      (readFields position r (fields.map (fun f => (f, Accessor.forField extractors f)))).outcome st
        = .ok (fields.map (fun f => (f, value r f)))
  | [], _, _ => rfl
  | f :: fields, st, h => by
      have first : (readOne position r f (Accessor.forField extractors f)).outcome st
          = .ok (value r f) := by
        rw [readOne_outcome]
        exact h r List.mem_cons_self f List.mem_cons_self st
      have others : ReadsAs extractors fields [r] value :=
        h.mono (fun g hg => List.mem_cons_of_mem f hg) (fun _ hr => hr)
      show (readOne position r f _ >>= _).outcome st = _
      rw [Run.outcome_bind_ok first, Run.outcome_bind_ok (readFields_readsAs _ others)]
      rfl

theorem readSerially_readsAs {extractors : Extractors σ} {fields : List String}
    {value : Record → String → Value} :
    ∀ {records : List Record} (position : Nat) (st : σ), ReadsAs extractors fields records value →
      (readSerially (fields.map (fun f => (f, Accessor.forField extractors f))) position
          records).outcome st
        = .ok (records.map (fun r => fields.map (fun f => (f, value r f))))
  | [], _, _, _ => rfl
  | r :: records, position, st, h => by
      have first : ReadsAs extractors fields [r] value :=
        h.mono (fun _ hf => hf) (fun _ hr => List.mem_singleton.mp hr ▸ List.mem_cons_self)
      have others : ReadsAs extractors fields records value :=
        h.mono (fun _ hf => hf) (fun _ hr => List.mem_cons_of_mem r hr)
      show (readFields position r _ >>= _).outcome st = _
      rw [Run.outcome_bind_ok (readFields_readsAs _ first),
        Run.outcome_bind_ok (readSerially_readsAs _ _ others)]
      rfl

/-- The keys that rows of values make. -/
theorem decorateFrom_keys {fields : List String} {value : Record → String → Value} :
    ∀ {records : List Record} (position : Nat),
      ∀ d ∈ decorateFrom fields position records
          (records.map (fun r => (distinct fields).map (fun f => (f, value r f)))),
        d.key = fields.map (value d.record)
  | r :: records, position, d, hd => by
      rcases List.mem_cons.mp hd with rfl | hd
      · exact FieldValues.key_distinct fields (value r)
      · exact decorateFrom_keys (position + 1) d hd

/-- **Serial decoration gives every record the row of its values.** -/
theorem decorate_readsAs {extractors : Extractors σ} {fields : List String}
    {records : List Record} {value : Record → String → Value} (schedule : List Nat) (st : σ)
    (h : ReadsAs extractors fields records value) :
    ∃ decorated, (decorate false schedule fields extractors records).outcome st = .ok decorated
      ∧ ∀ d ∈ decorated, d.key = fields.map (value d.record) := by
  -- only the distinct fields are read; the key repeats their values where fields repeat
  have distinctly : ReadsAs extractors (distinct fields) records value :=
    h.mono (fun f hf => (mem_distinct f).mp hf) (fun _ hr => hr)
  refine ⟨decorateFrom fields 0 records
    (records.map (fun r => (distinct fields).map (fun f => (f, value r f)))), ?_,
    decorateFrom_keys 0⟩
  rw [decorate_eq]
  show (readSerially ((distinct fields).map _) 0 records >>= _).outcome st = _
  rw [Run.outcome_bind_ok (readSerially_readsAs 0 st distinctly)]
  rfl

end OrderBy
