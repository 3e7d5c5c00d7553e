/-
  OrderBy.Proofs.Reading.Values
  ─────────────────────────────
  **WHERE FIELDS READ AS VALUES, A SORT IS THE SORT OF THE ROWS OF VALUES.**

  A decoration that succeeds is all that the later phases of a sort see.  Where every
  field of every record reads as one value it is known beforehand, whoever reads and in
  whatever order:

      records   →   decoratedAs value   →   sortDecorated   →   order, comparisons

  And where readings depend on the record alone they do read as one value each, as soon
  as one decoration has succeeded.
-/
import OrderBy.Proofs.WaysIn

namespace OrderBy

variable {σ : Type}

/-! ## §1. Sorts whose records have been decorated. -/

/-- The two records that an event asks about, by position. -/
def Event.question? : Event → Option (Nat × Nat)
  | .question left right => some (left, right)
  | _ => none

/-- The questions that a sort asks: whether the record at the first position comes before
that at the second. -/
def Sorter.questions (s : Sorter) (schedule : List Nat) (source : Source) (criterion : Criterion)
    (extractors : Extractors σ) (st : σ) : List (Nat × Nat) :=
  ((s.sortKeyed schedule source criterion extractors).events st).filterMap Event.question?

/-- What is no comparison asks no question. -/
theorem filterMap_question_filter (events : List Event) :
    (events.filter Event.isComparing).filterMap Event.question?
      = events.filterMap Event.question? := by
  rw [List.filterMap_filter]
  refine List.filterMap_congr fun ev _ => ?_
  cases ev <;> rfl

theorem questions_eq (s : Sorter) (schedule : List Nat) (source : Source) (criterion : Criterion)
    (extractors : Extractors σ) (st : σ) :
    s.questions schedule source criterion extractors st
      = (s.comparisons schedule source criterion extractors st).filterMap Event.question? :=
  (filterMap_question_filter _).symm

/-- Comparing two records asks one question, about their positions. -/
theorem question_before (ds : List Direction) (x y : Decorated) :
    (Decorated.before ds x y).events.filterMap Event.question? = [(x.position, y.position)] := by
  have silent : ∀ cs : List Comparison,
      (cs.map Event.comparison).filterMap Event.question? = [] := by
    intro cs
    induction cs with
    | nil => rfl
    | cons c cs ih => exact ih
  rw [before_events]
  exact congrArg ((x.position, y.position) :: ·) (silent _)

section Decorated

variable {s : Sorter} {schedule : List Nat} {source : Source} {criterion : Criterion}
  {e : Expression} {records : List Record} {concurrent : Bool} {extractors : Extractors σ} {st : σ}
  {decorated : List Decorated} (hread : (criterion.read s.parser).outcome = .ok e)
  (hsource : source.toList = .ok records) (hworkers : s.isConcurrent = .ok concurrent)
  (hdecorate : (decorate concurrent schedule e.fields extractors records).outcome st
    = .ok decorated)

include hread hsource hworkers hdecorate

/-- A sort goes on with its decorated records. -/
theorem sortKeyed_of_decorate :
    (s.sortKeyed schedule source criterion extractors).outcome st
      = (sortDecorated e.directions decorated).outcome := by
  rw [decorate_eq] at hdecorate
  obtain ⟨rows, hrows, joined⟩ := Run.outcome_bind_eq_ok hdecorate
  obtain rfl := Except.ok.inj joined
  rw [Sorter.sortKeyed_phases_outcome schedule extractors st hread hsource hworkers,
    Run.outcome_bind_ok hrows, sortAndLog_outcome]

theorem order_of_decorate :
    s.order schedule source criterion extractors st
      = List.map Decorated.position <$> (sortDecorated e.directions decorated).outcome := by
  unfold Sorter.order
  rw [sortKeyed_of_decorate hread hsource hworkers hdecorate]

theorem sort_of_decorate :
    (s.sort schedule source criterion extractors).outcome st
      = List.map Decorated.record <$> (sortDecorated e.directions decorated).outcome := by
  unfold Sorter.sort
  rw [Run.outcome_map, sortKeyed_of_decorate hread hsource hworkers hdecorate]

theorem comparisons_of_decorate :
    s.comparisons schedule source criterion extractors st
      = (sortDecorated e.directions decorated).events.filter Event.isComparing := by
  rw [decorate_eq] at hdecorate
  obtain ⟨rows, hrows, joined⟩ := Run.outcome_bind_eq_ok hdecorate
  obtain rfl := Except.ok.inj joined
  have asked : ((askRows concurrent schedule (distinct e.fields) records.length).run extractors
      records).outcome st = .ok rows := by
    rw [run_askRows]
    exact hrows
  rw [comparisons_eq hread hsource hworkers, asked]

theorem questions_of_decorate :
    s.questions schedule source criterion extractors st
      = (sortDecorated e.directions decorated).events.filterMap Event.question? := by
  rw [questions_eq, comparisons_of_decorate hread hsource hworkers hdecorate,
    filterMap_question_filter]

omit hdecorate in
/-- A sort that returns has decorated its records. -/
theorem exists_decorate_of_sort {out : List Record}
    (h : (s.sort schedule source criterion extractors).outcome st = .ok out) :
    ∃ decorated, (decorate concurrent schedule e.fields extractors records).outcome st
      = .ok decorated := by
  unfold Sorter.sort at h
  rw [Run.outcome_map, Sorter.sortKeyed_phases_outcome schedule extractors st hread hsource
    hworkers] at h
  obtain ⟨sorted, hsorted, -⟩ := map_eq_ok.mp h
  obtain ⟨rows, hrows, -⟩ := Run.outcome_bind_eq_ok hsorted
  refine ⟨decorateFrom e.fields 0 records rows, ?_⟩
  rw [decorate_eq, Run.outcome_bind_ok hrows]
  rfl

end Decorated

/-! ## §2. Fields that read as values. -/

variable {extractors : Extractors σ} {records : List Record} {value : Record → String → Value}

/-- Readings that always give one value are determined. -/
theorem ReadsAs.determinedOn {fields : List String} (h : ReadsAs extractors fields records value) :
    DeterminedOn extractors fields records :=
  fun f hf r hr st st' => (h r hr f hf st).trans (h r hr f hf st').symm

/-- The row of values that an expression gives a record. -/
def rowOf (value : Record → String → Value) (e : Expression) (r : Record) : List Value :=
  e.fields.map (value r)

theorem Decorated.ext {x y : Decorated} (position : x.position = y.position)
    (record : x.record = y.record) (key : x.key = y.key) : x = y := by
  cases x
  cases y
  simp_all

/-- Records that are decorated with their rows of values. -/
def decoratedAs (value : Record → String → Value) (e : Expression) (records : List Record) :
    List Decorated :=
  records.mapIdx fun i r => ⟨i, r, rowOf value e r⟩

theorem decoratedAs_key {e : Expression} {d : Decorated} (h : d ∈ decoratedAs value e records) :
    d.key = rowOf value e d.record := by
  obtain ⟨i, hi, rfl⟩ := List.mem_mapIdx.mp h
  rfl

/-- They are a decoration … -/
theorem decorates_decoratedAs (value : Record → String → Value) (e : Expression)
    (records : List Record) : Decorates e.fields.length records (decoratedAs value e records) where
  positions := by
    refine List.ext_getElem (by simp [decoratedAs]) fun i _ _ => ?_
    simp [decoratedAs]
  records := by
    refine List.ext_getElem (by simp [decoratedAs]) fun i _ _ => ?_
    simp [decoratedAs]
  keys := by
    intro d hd
    rw [decoratedAs_key hd]
    exact List.length_map _

theorem decoratedAs_record {e : Expression} {d : Decorated} (h : d ∈ decoratedAs value e records) :
    d.record ∈ records := by
  have mem := List.mem_map_of_mem (f := Decorated.record) h
  rwa [(decorates_decoratedAs value e records).records] at mem

/-- … and the only one with these keys. -/
theorem Decorates.eq_decoratedAs {width : Nat} {e : Expression} {decorated : List Decorated}
    (h : Decorates width records decorated)
    (keys : ∀ d ∈ decorated, d.key = rowOf value e d.record) :
    decorated = decoratedAs value e records := by
  have other := decorates_decoratedAs value e records
  refine List.ext_getElem ?_ fun i hi hi' => ?_
  · rw [← List.length_map Decorated.record, h.records, ← List.length_map Decorated.record,
      other.records]
  -- both have the record that stands at the position, and its row
  · have positions := List.getElem_of_eq (h.positions.trans other.positions.symm)
      (by rwa [List.length_map] : i < _)
    have records := List.getElem_of_eq (h.records.trans other.records.symm)
      (by rwa [List.length_map] : i < _)
    rw [List.getElem_map, List.getElem_map] at positions records
    have key : decorated[i].key = (decoratedAs value e _)[i].key := by
      rw [keys _ (List.getElem_mem hi), decoratedAs_key (List.getElem_mem hi'), records]
    exact Decorated.ext positions records key

/-- A decoration by determined readings succeeds iff the rows of their answers are there,
whichever way it goes. -/
theorem DeterminedOn.decorate_eq_ok {e : Expression} (h : DeterminedOn extractors e.fields records)
    {concurrent : Bool} {schedule : List Nat} {st : σ} {decorated : List Decorated} :
    (decorate concurrent schedule e.fields extractors records).outcome st = .ok decorated
      ↔ ∃ rows, answeredRows (answerFrom extractors records st) (distinct e.fields)
            (List.range records.length) = .ok rows
          ∧ decorateFrom e.fields 0 records rows = decorated := by
  rw [decorate_of_answers (h.giveAnswers concurrent schedule st st), map_eq_ok]
  simp only [deliveredRows_eq_ok]

section Values

variable {e : Expression} (h : ReadsAs extractors e.fields records value)

include h

/-- **Where fields read as values, every decoration succeeds and gives their rows.** -/
theorem decorate_of_readsAs (concurrent : Bool) (schedule : List Nat) (st : σ) :
    (decorate concurrent schedule e.fields extractors records).outcome st
      = .ok (decoratedAs value e records) := by
  obtain ⟨decorated, serial, keys⟩ := decorate_readsAs [] st h
  rw [← (decorate_shape serial).eq_decoratedAs keys]
  exact h.determinedOn.decorate_eq_ok.mpr (h.determinedOn.decorate_eq_ok.mp serial)

end Values

/-! ## §3. Determined readings. -/

/-- The value that a state answers for a field of a record, if it does. -/
def valueFrom (extractors : Extractors σ) (st : σ) (r : Record) (f : String) : Value :=
  match ((Accessor.forField extractors f).read r).outcome st with
  | .ok v => v
  | .error _ => .null

/-- Every field of a row is found in it, with the answer for it. -/
theorem lookup_of_answeredRow {answer : Nat → String → Except Fault Value} {i : Nat} :
    ∀ {fields : List String} {row : FieldValues}, answeredRow answer i fields = .ok row →
      ∀ f ∈ fields, ∃ v, row.lookup f = some v ∧ answer i f = .ok v
  | [], _, _ => List.forall_mem_nil _
  | g :: fields, row, h => by
      rw [answeredRow_cons] at h
      cases hg : answer i g with
      | error fault =>
          rw [hg] at h
          cases h
      | ok w =>
          cases hrest : answeredRow answer i fields with
          | error fault =>
              rw [hg, hrest] at h
              cases h
          | ok rest =>
              rw [hg, hrest] at h
              obtain rfl := Except.ok.inj h
              intro f hf
              by_cases here : f = g
              · subst here
                exact ⟨w, List.lookup_cons_self, hg⟩
              · -- the front of the row is passed by, and the field stands behind it
                obtain ⟨v, found, answered⟩ :=
                  lookup_of_answeredRow hrest f ((List.mem_cons.mp hf).resolve_left here)
                refine ⟨v, ?_, answered⟩
                rw [List.lookup_cons, beq_eq_false_iff_ne.mpr here]
                exact found

/-- Every part of a row has been answered. -/
theorem answer_of_answeredRow {answer : Nat → String → Except Fault Value} {i : Nat}
    {fields : List String} {row : FieldValues} (h : answeredRow answer i fields = .ok row) :
    ∀ f ∈ fields, ∃ v, answer i f = .ok v := by
  intro f hf
  obtain ⟨v, _, answered⟩ := lookup_of_answeredRow h f hf
  exact ⟨v, answered⟩

theorem answer_of_answeredRows {answer : Nat → String → Except Fault Value} {fields : List String} :
    ∀ {positions : List Nat} {rows : List FieldValues},
      answeredRows answer fields positions = .ok rows →
      ∀ i ∈ positions, ∀ f ∈ fields, ∃ v, answer i f = .ok v
  | [], _, _ => List.forall_mem_nil _
  | i :: positions, rows, h => by
      rw [answeredRows_cons] at h
      cases hi : answeredRow answer i fields with
      | error fault =>
          rw [hi] at h
          cases h
      | ok row =>
          cases hrest : answeredRows answer fields positions with
          | error fault =>
              rw [hi, hrest] at h
              cases h
          | ok rest =>
              exact List.forall_mem_cons.mpr ⟨answer_of_answeredRow hi, answer_of_answeredRows hrest⟩

/-- **Determined readings give values, if one decoration has succeeded.** -/
theorem DeterminedOn.readsAs {e : Expression} (h : DeterminedOn extractors e.fields records)
    {concurrent : Bool} {schedule : List Nat} {st : σ} {decorated : List Decorated}
    (hdecorate : (decorate concurrent schedule e.fields extractors records).outcome st
      = .ok decorated) :
    ReadsAs extractors e.fields records (valueFrom extractors st) := by
  obtain ⟨rows, asked, -⟩ := h.decorate_eq_ok.mp hdecorate
  intro r hr f hf st'
  obtain ⟨i, hi, rfl⟩ := List.getElem_of_mem hr
  obtain ⟨v, hv⟩ := answer_of_answeredRows asked i (List.mem_range.mpr hi) f
    ((mem_distinct f).mpr hf)
  rw [answerFrom_of_getElem? (List.getElem?_eq_getElem hi)] at hv
  have read : valueFrom extractors st records[i] f = v := by
    unfold valueFrom
    rw [hv]
  rw [read, h f hf records[i] hr st' st, hv]

end OrderBy
