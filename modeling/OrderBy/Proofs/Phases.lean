/-
  OrderBy.Proofs.Phases
  ─────────────────────
  **A SORT READS ITS EXPRESSION AND THEN LOOKS AT THE KEYS ONLY.**

  The first phase of a sort gives an expression; all later phases see its keys and
  nothing else of it, least of all its text:

      sortKeyed source criterion  =  read criterion, then sortByKeys source keys

  So two criteria that are read as the same keys are sorted by in the same way, up
  to what reading them logs.
-/
import OrderBy.Proofs.Decoration
import OrderBy.Proofs.Order.Kind
import OrderBy.Sorter

namespace OrderBy

variable {σ : Type}

/-! ## §1. Workers. -/

/-- A number of workers can always be compared with one. -/
theorem Sorter.isConcurrent_int (p : Parser) (workers : Int) :
    (Sorter.mk p (.int workers)).isConcurrent = .ok (decide (1 < workers)) := by
  have less : (Scalar.number (.ofInt workers)).less? (.number (.ofInt 1))
      = some (decide (workers < 1)) := congrArg some (Number.less_ofInt workers 1)
  have greater : (Scalar.number (.ofInt 1)).less? (.number (.ofInt workers))
      = some (decide (1 < workers)) := congrArg some (Number.less_ofInt 1 workers)
  exact Value.ask_of_scalar rfl rfl less greater .greater

/-- The standard sorter reads serially. -/
theorem Sorter.isConcurrent_standard : Sorter.standard.isConcurrent = .ok false :=
  Sorter.isConcurrent_int _ 0

/-! ## §2. The phases of a sort. -/

/-- What a sort does with its keys, once it has them. -/
def Sorter.sortByKeys (s : Sorter) (schedule : List Nat) (source : Source) (keys : List SortKey)
    (extractors : Extractors σ) : Run σ Event (List Decorated) := do
  let records ← Run.lift (Traced.ofExcept source.toList)
  let concurrent ← Run.lift (Traced.ofExcept s.isConcurrent)
  let decorated ← decorate concurrent schedule (keys.map SortKey.field) extractors records
  let sorted ← Run.lift (sortDecorated (keys.map SortKey.direction) decorated)
  Run.emit (.log (.sorted sorted.length (Expression.renderKeys keys)))
  pure sorted

/-- **A sort reads its expression and goes on with the keys.** -/
theorem Sorter.sortKeyed_eq (s : Sorter) (schedule : List Nat) (source : Source)
    (criterion : Criterion) (extractors : Extractors σ) :
    s.sortKeyed schedule source criterion extractors
      = Run.lift ((criterion.read s.parser).mapEvents .log)
          >>= fun e => s.sortByKeys schedule source e.keys extractors := rfl

/-- What a sort does with decorated records: it compares, and logs. -/
def sortAndLog (e : Expression) (decorated : List Decorated) : Run σ Event (List Decorated) := do
  let sorted ← Run.lift (sortDecorated e.directions decorated)
  Run.emit (.log (.sorted sorted.length e.canonical))
  pure sorted

/-- **The phases of a sort whose expression is read and whose records are listed.** -/
theorem Sorter.sortKeyed_phases {s : Sorter} {source : Source} {criterion : Criterion}
    {e : Expression} {records : List Record} {concurrent : Bool} (schedule : List Nat)
    (extractors : Extractors σ) (hread : (criterion.read s.parser).outcome = .ok e)
    (hsource : source.toList = .ok records) (hworkers : s.isConcurrent = .ok concurrent) :
    s.sortKeyed schedule source criterion extractors
      = Run.lift ⟨(criterion.read s.parser).events.map .log, .ok ()⟩ >>= fun _ =>
        readRows concurrent schedule (Accessor.forFields extractors e.fields) records >>= fun rows =>
          sortAndLog e (decorateFrom e.fields 0 records rows) := by
  have reading : (Run.lift ((criterion.read s.parser).mapEvents .log) : Run σ Event Expression)
      = Run.lift ⟨(criterion.read s.parser).events.map .log, .ok ()⟩ >>= fun _ => pure e := by
    funext st
    rw [Run.bind_ok rfl]
    show ((criterion.read s.parser).mapEvents Event.log, st) = (⟨_ ++ [], .ok e⟩, st)
    rw [List.append_nil, ← hread]
    rfl
  unfold Sorter.sortKeyed
  rw [reading, bind_assoc, hsource, hworkers]
  simp only [decorate_eq, bind_assoc]
  rfl

section Listed

variable {s : Sorter} {source : Source} {criterion : Criterion} {e : Expression}
  {records : List Record} {concurrent : Bool} (schedule : List Nat) (extractors : Extractors σ)
  (st : σ) (hread : (criterion.read s.parser).outcome = .ok e)
  (hsource : source.toList = .ok records) (hworkers : s.isConcurrent = .ok concurrent)

include hread hsource hworkers

/-- The events of such a sort: log lines, then those of reading and comparing. -/
theorem Sorter.sortKeyed_phases_events :
    (s.sortKeyed schedule source criterion extractors).events st
      = (criterion.read s.parser).events.map .log
        ++ (readRows concurrent schedule (Accessor.forFields extractors e.fields) records
              >>= fun rows => sortAndLog e (decorateFrom e.fields 0 records rows)).events st := by
  rw [Sorter.sortKeyed_phases schedule extractors hread hsource hworkers,
    Run.events_bind_ok (by rfl)]
  rfl

/-- The outcome of such a sort is that of reading and comparing. -/
theorem Sorter.sortKeyed_phases_outcome :
    (s.sortKeyed schedule source criterion extractors).outcome st
      = (readRows concurrent schedule (Accessor.forFields extractors e.fields) records
          >>= fun rows => sortAndLog e (decorateFrom e.fields 0 records rows)).outcome st := by
  rw [Sorter.sortKeyed_phases schedule extractors hread hsource hworkers,
    Run.outcome_bind_ok (by rfl)]
  rfl

end Listed

/-- Logging adds nothing to the outcome of comparing. -/
theorem sortAndLog_outcome (e : Expression) (decorated : List Decorated) (st : σ) :
    (sortAndLog e decorated : Run σ Event _).outcome st
      = (sortDecorated e.directions decorated).outcome := by
  unfold sortAndLog
  cases h : (sortDecorated e.directions decorated).outcome with
  | error fault => exact Run.outcome_bind_error (by exact h) _
  | ok sorted => exact Run.outcome_bind_ok (by exact h) _

/-- A sort whose phases all succeed returns what its last phase gives. -/
theorem Sorter.sortKeyed_ok {s : Sorter} {schedule : List Nat} {source : Source}
    {criterion : Criterion} {extractors : Extractors σ} {st : σ} {e : Expression}
    {records : List Record} {concurrent : Bool} {decorated out : List Decorated}
    (hread : (criterion.read s.parser).outcome = .ok e) (hsource : source.toList = .ok records)
    (hworkers : s.isConcurrent = .ok concurrent)
    (hreads : (decorate concurrent schedule e.fields extractors records).outcome st
      = .ok decorated)
    (hsort : (sortDecorated e.directions decorated).outcome = .ok out) :
    (s.sortKeyed schedule source criterion extractors).outcome st = .ok out := by
  unfold Sorter.sortKeyed
  rw [Run.outcome_bind_ok (by exact hread), Run.outcome_bind_ok (by exact hsource),
    Run.outcome_bind_ok (by exact hworkers), Run.outcome_bind_ok (by exact hreads),
    Run.outcome_bind_ok (by exact hsort)]
  rfl

/-- The records of a sort are those of the decorated records that it returns. -/
theorem Sorter.sort_ok {s : Sorter} {schedule : List Nat} {source : Source}
    {criterion : Criterion} {extractors : Extractors σ} {st : σ} {out : List Decorated}
    (h : (s.sortKeyed schedule source criterion extractors).outcome st = .ok out) :
    (s.sort schedule source criterion extractors).outcome st
      = .ok (out.map Decorated.record) := by
  unfold Sorter.sort
  rw [Run.outcome_map, h]
  rfl

end OrderBy
