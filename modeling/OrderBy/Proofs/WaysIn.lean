/-
  OrderBy.Proofs.WaysIn
  ─────────────────────
  **WHICHEVER WAY RECORDS ARE SORTED, THE SAME COMES OUT.**

  A function, a list, a sorter and a record sorter with any configuration sort by
  parsers that differ in their warnings, with different numbers of workers, under any
  schedule.  Where readings depend on the record alone, two such sorts are *alike*:

      outcome       the same records in the same order, or the same fault
      log           the same lines, warnings left out
      comparisons   the same ones, in the same order
      readings      the same ones if there is a result, in whatever order

  Each phase of a sort is like the same phase of the other, and being alike is passed
  on by sequencing.  What a record sorter does with a missing expression is said
  outright: it sorts by its default expression or, without one, touches nothing.

  One fault tells the ways apart.  A reading that comes upon the end of an iteration
  ends a serial sort with just that; a pool of workers says that its generator has been
  stopped.
-/
import OrderBy.Proofs.Expression.Warnings
import OrderBy.Proofs.Reading.Dependence

namespace OrderBy

variable {σ α β : Type}

/-! ## §1. Runs that are alike. -/

/-- Whether an event shows whichever way records are sorted: a line of the log that is no
warning, or a part of a comparison. -/
def Event.isCommon : Event → Bool
  | .log entry => entry.isPlain
  | .question _ _ | .comparison _ => true
  | .attempt _ _ | .access _ => false

/-- Two runs that, from any two states on, end alike, show the same events, and if they
succeed have attempted the same readings. -/
structure Run.Alike (run run' : Run σ Event α) : Prop where
  outcome : ∀ st st', run.outcome st = run'.outcome st'
  common : ∀ st st', (run.events st).filter Event.isCommon = (run'.events st').filter Event.isCommon
  readings : ∀ st st' a, run.outcome st = .ok a →
    (attempts (run.events st)).Perm (attempts (run'.events st'))

namespace Run.Alike

/-- What does not look at the state is like itself. -/
theorem lift (t : Traced Event α) : Alike (Run.lift t : Run σ Event α) (Run.lift t) :=
  ⟨fun _ _ => rfl, fun _ _ => rfl, fun _ _ _ _ => .refl _⟩

/-- **Being alike is passed on by sequencing.** -/
theorem bind {run run' : Run σ Event α} {f f' : α → Run σ Event β} (h : Alike run run')
    (k : ∀ a st, run.outcome st = .ok a → Alike (f a) (f' a)) :
    Alike (run >>= f) (run' >>= f') where
  outcome := by
    intro st st'
    cases ho : run.outcome st with
    | error fault =>
        rw [outcome_bind_error ho, outcome_bind_error ((h.outcome st st').symm.trans ho)]
    | ok a =>
        rw [outcome_bind_ok ho, outcome_bind_ok ((h.outcome st st').symm.trans ho)]
        exact (k a st ho).outcome _ _
  common := by
    intro st st'
    rw [events_bind, events_bind, List.filter_append, List.filter_append, h.common st st',
      ← h.outcome st st']
    cases ho : run.outcome st with
    | error fault => rfl
    | ok a => exact congrArg _ ((k a st ho).common _ _)
  readings := by
    intro st st' b hb
    obtain ⟨a, ha, hb⟩ := outcome_bind_eq_ok hb
    rw [events_bind_ok ha, events_bind_ok ((h.outcome st st').symm.trans ha), attempts_append,
      attempts_append]
    exact (h.readings st st' a ha).append ((k a st ha).readings _ _ b hb)

theorem map (g : α → β) {run run' : Run σ Event α} (h : Alike run run') :
    Alike (g <$> run) (g <$> run') := by
  rw [← bind_pure_comp, ← bind_pure_comp]
  exact h.bind fun a _ _ => .lift (pure (g a))

variable {g : Fault → Fault}

/-- What is alike is alike if some faults are taken for others. -/
theorem mapFault {run run' : Run σ Event α} (h : Alike run run') :
    Alike (run.mapFault g) (run'.mapFault g) :=
  ⟨fun st st' => congrArg (Except.mapError g) (h.outcome st st'), h.common,
    fun st st' a ha => h.readings st st' a (mapError_eq_ok.mp ha)⟩

theorem mapFault_id_iff {run run' : Run σ Event α} :
    Alike (run.mapFault id) (run'.mapFault id) ↔ Alike run run' := by
  rw [Run.mapFault_id, Run.mapFault_id]

/-- Being alike up to faults is passed on as well. -/
theorem bind_mapFault {run run' : Run σ Event α} {f f' : α → Run σ Event β}
    (h : Alike (run.mapFault g) (run'.mapFault g))
    (k : ∀ a st, run.outcome st = .ok a → Alike ((f a).mapFault g) ((f' a).mapFault g)) :
    Alike ((run >>= f).mapFault g) ((run' >>= f').mapFault g) := by
  rw [mapFault_bind, mapFault_bind]
  exact h.bind fun a st ha => k a st (mapError_eq_ok.mp ha)

end Run.Alike

/-- Lines of the log that differ in warnings only are alike as events of a sort. -/
theorem Traced.SameButWarnings.alike {t t' : Traced LogEntry α} (h : t.SameButWarnings t') :
    Run.Alike (Run.lift (t.mapEvents .log) : Run σ Event α) (Run.lift (t'.mapEvents .log)) := by
  have common : ∀ entries : List LogEntry,
      (entries.map Event.log).filter Event.isCommon = (entries.filter LogEntry.isPlain).map .log :=
    fun _ => List.filter_map
  have unread : ∀ entries : List LogEntry, attempts (entries.map Event.log) = [] :=
    fun entries => (without_log (fun _ => rfl) entries).attempts_eq_nil
  refine ⟨fun _ _ => h.outcome, fun _ _ => ?_, fun _ _ _ _ => ?_⟩
  · show (t.events.map Event.log).filter _ = (t'.events.map Event.log).filter _
    rw [common, common, h.plain]
  · show (attempts (t.events.map Event.log)).Perm (attempts (t'.events.map Event.log))
    rw [unread, unread]

/-! ## §2. Decorations are alike. -/

/-- Nothing of a reading shows in every way of sorting. -/
theorem Event.not_isCommon (ev : Event) (h : ev.isReading = true) : ev.isCommon = false := by
  cases ev <;> first | rfl | cases h

/-- **Decorations under any two schedules are alike** where readings depend on the record
alone, as far as both deliver the rows of the answers in the same way. -/
theorem DeterminedOn.readRows_alike {extractors : Extractors σ} {e : Expression}
    {records : List Record} (h : DeterminedOn extractors e.fields records)
    {concurrent concurrent' : Bool} (schedule schedule' : List Nat) {g : Fault → Fault}
    (hdelivered : ∀ st,
      (deliveredRows (concurrent && decide (1 < records.length))
          (answeredRows (answerFrom extractors records st) (distinct e.fields)
            (List.range records.length))).mapError g
        = (deliveredRows (concurrent' && decide (1 < records.length))
          (answeredRows (answerFrom extractors records st) (distinct e.fields)
            (List.range records.length))).mapError g) :
    Run.Alike
      ((readRows concurrent schedule (Accessor.forFields extractors e.fields) records).mapFault g)
      ((readRows concurrent' schedule' (Accessor.forFields extractors e.fields)
        records).mapFault g) := by
  show Run.Alike
    ((readRows concurrent schedule (accessorsOf extractors (distinct e.fields)) records).mapFault g)
    ((readRows concurrent' schedule' (accessorsOf extractors (distinct e.fields))
      records).mapFault g)
  rw [← run_askRows concurrent, ← run_askRows concurrent']
  have outcome : ∀ st st',
      (((askRows concurrent schedule (distinct e.fields) records.length).run extractors
          records).outcome st).mapError g
        = (((askRows concurrent' schedule' (distinct e.fields) records.length).run extractors
            records).outcome st').mapError g := by
    intro st st'
    -- the answers of one state are those of every state
    rw [Dialogue.run_of_giveAnswers (h.giveAnswers concurrent schedule st st),
      Dialogue.run_of_giveAnswers (h.giveAnswers concurrent' schedule' st st'), answered_askRows,
      answered_askRows, hdelivered]
  -- with a result, each place has been read once, under any schedule
  have complete : ∀ concurrent schedule st rows,
      ((askRows concurrent schedule (distinct e.fields) records.length).run extractors
          records).outcome st = .ok rows →
      (places (List.range records.length) (distinct e.fields)).Perm
        (attempts (((askRows concurrent schedule (distinct e.fields) records.length).run extractors
          records).events st)) := by
    intro concurrent schedule st rows hrows
    obtain ⟨left, perm, result⟩ := (spends_askRows concurrent schedule (distinct e.fields)
      records.length).readings extractors records st
    rw [result rows hrows, List.append_nil] at perm
    rwa [Dialogue.attempts_run]
  refine ⟨outcome, fun st st' => ?_, fun st st' rows hrows => ?_⟩
  · rw [Run.events_mapFault, Run.events_mapFault,
      (Dialogue.run_without Event.not_isCommon _ st).filter_eq_nil,
      (Dialogue.run_without Event.not_isCommon _ st').filter_eq_nil]
  · have rows' := (outcome st st').symm.trans hrows
    exact (complete concurrent schedule st rows (mapError_eq_ok.mp hrows)).symm.trans
      (complete concurrent' schedule' st' rows (mapError_eq_ok.mp rows'))

/-! ## §3. Sorts are alike. -/

/-- **Sorts by parsers of one grammar are alike as far as their decorations are**, whatever
their workers and schedules. -/
theorem Sorter.sort_alike {s s' : Sorter} (hgrammar : s.parser.SameGrammar s'.parser)
    {concurrent concurrent' : Bool} (hworkers : s.isConcurrent = .ok concurrent)
    (hworkers' : s'.isConcurrent = .ok concurrent') {schedule schedule' : List Nat}
    {source : Source} {criterion : Criterion} {extractors : Extractors σ} {g : Fault → Fault}
    (hrows : ∀ e records, (criterion.read s.parser).outcome = .ok e →
      source.toList = .ok records →
      Run.Alike
        ((readRows concurrent schedule (Accessor.forFields extractors e.fields) records).mapFault g)
        ((readRows concurrent' schedule' (Accessor.forFields extractors e.fields)
          records).mapFault g)) :
    Run.Alike ((s.sort schedule source criterion extractors).mapFault g)
      ((s'.sort schedule' source criterion extractors).mapFault g) := by
  have same : ∀ {α : Type} (t : Traced Event α),
      Run.Alike ((Run.lift t : Run σ Event α).mapFault g) ((Run.lift t).mapFault g) :=
    fun t => (Run.Alike.lift t).mapFault
  unfold Sorter.sort
  rw [Sorter.sortKeyed_eq, Sorter.sortKeyed_eq, ← bind_pure_comp, ← bind_pure_comp]
  refine Run.Alike.bind_mapFault ?_ fun _ _ _ => same (pure _)
  refine (hgrammar.read criterion).alike.mapFault.bind_mapFault fun e _ hread => ?_
  unfold Sorter.sortByKeys
  refine (same _).bind_mapFault fun records _ hsource => ?_
  -- how many workers there are is known, and is no difference
  rw [hworkers, hworkers']
  show Run.Alike (Run.mapFault g ((pure concurrent : Run σ Event Bool) >>= _))
    (Run.mapFault g ((pure concurrent' : Run σ Event Bool) >>= _))
  rw [pure_bind, pure_bind]
  refine Run.Alike.bind_mapFault ?_ fun decorated _ _ => ?_
  · rw [decorate_eq, decorate_eq]
    exact (hrows e records hread hsource).bind_mapFault fun rows _ _ => same (pure _)
  · exact (same _).bind_mapFault fun _ _ _ => (same _).bind_mapFault fun _ _ _ => same (pure _)

/-- The parser of a record sorter is the standard one but for its warnings. -/
theorem sameGrammar_ofConfig (c : Config) :
    Parser.standard.SameGrammar (BoundSorter.ofConfig c).sorter.parser := ⟨rfl, rfl⟩

/-- Sorting records by anything but no expression, a record sorter sorts as its sorter
does. -/
theorem BoundSorter.sort_of_criterion (s : BoundSorter) (schedule : List Nat) (source : Source)
    {criterion : Criterion} (h : criterion ≠ .written .null) (extractors : Extractors σ) :
    s.sort schedule source criterion extractors
      = s.sorter.sort schedule source criterion extractors := by
  have given : s.criterion criterion = .ok criterion := by
    cases criterion with
    | parsed e => rfl
    | written v =>
        cases v with
        | null => exact absurd rfl h
        | _ => rfl
  unfold BoundSorter.sort BoundSorter.sortKeyed
  rw [given]
  rfl

/-- A sort sees of a source the records that it lists. -/
theorem sortBy_of_toList {source source' : Source} (h : source.toList = source'.toList)
    (criterion : Criterion) (extractors : Extractors σ) :
    sortBy source criterion extractors = sortBy source' criterion extractors := by
  unfold sortBy Sorter.sort Sorter.sortKeyed
  rw [h]

/-- A list of the records of a source sorts itself as the function sorts the source. -/
theorem RecordList.sortBy_ofSource {source : Source} {l : RecordList}
    (h : RecordList.ofSource source = .ok l) (criterion : Criterion) (extractors : Extractors σ) :
    RecordList.records <$> l.sortBy criterion extractors
      = OrderBy.sortBy source criterion extractors := by
  have listed : source.toList = .ok l.records := by
    unfold RecordList.ofSource at h
    cases hsource : source.toList with
    | error fault =>
        rw [hsource] at h
        cases h
    | ok records =>
        rw [hsource] at h
        obtain rfl : RecordList.mk records = l := Except.ok.inj h
        rfl
  have same : (Source.records l.records).toList = source.toList := listed.symm
  unfold RecordList.sortBy
  rw [Functor.map_map, sortBy_of_toList same]
  exact id_map _

/-- Without a criterion, a record sorter sorts by its default expression. -/
theorem BoundSorter.sort_of_default {c : Config} {text : String}
    (h : c.defaultExpression = some text) (schedule : List Nat) (source : Source)
    (extractors : Extractors σ) :
    (ofConfig c).sort schedule source (.written .null) extractors
      = (ofConfig c).sort schedule source (.written (.text text)) extractors := by
  have set : (ofConfig c).settings.defaultExpression = .text text := by
    show c.defaultExpression.elim Value.null Value.text = _
    rw [h]
    rfl
  unfold BoundSorter.sort BoundSorter.sortKeyed BoundSorter.criterion
  rw [set]

/-- With neither, it fails before anything has happened. -/
theorem BoundSorter.sort_of_no_default {c : Config} (h : c.defaultExpression = none)
    (schedule : List Nat) (source : Source) (extractors : Extractors σ) (st : σ) :
    (ofConfig c).sort schedule source (.written .null) extractors st
      = (⟨[], .error (.malformed .null .noExpression)⟩, st) := by
  have unset : (ofConfig c).settings.defaultExpression = .null := by
    show c.defaultExpression.elim Value.null Value.text = _
    rw [h]
    rfl
  unfold BoundSorter.sort BoundSorter.sortKeyed BoundSorter.criterion
  rw [unset]
  rfl

/-! ## §4. Record sorters. -/

/-- Whether a record sorter has a pool that reads some records. -/
theorem pooled_eq (workers n : Nat) :
    (decide (1 < (workers : Int)) && decide (1 < n)) = decide (1 < workers ∧ 1 < n) := by
  have cast : 1 < (workers : Int) ↔ 1 < workers := by omega
  rw [Bool.decide_and, decide_eq_decide.mpr cast]

section RecordSorters

variable {c : Config} {schedule : List Nat} {source : Source} {criterion : Criterion}
  {extractors : Extractors σ} (h : RecordDetermined extractors) (given : criterion ≠ .written .null)

include h

theorem RecordDetermined.determinedOn (fields : List String) (records : List Record) :
    DeterminedOn extractors fields records := fun f _ r _ => h f r

include given

/-- Just like it, if no pool comes upon the end of an iteration. -/
theorem BoundSorter.sort_alike
    (reraises : ∀ e records, (criterion.read Parser.standard).outcome = .ok e →
      source.toList = .ok records → 1 < c.decorateWorkers → 1 < records.length →
      Reraises extractors e records) :
    Run.Alike (sortBy source criterion extractors)
      ((ofConfig c).sort schedule source criterion extractors) := by
  rw [BoundSorter.sort_of_criterion _ _ _ given]
  refine Run.Alike.mapFault_id_iff.mp ?_
  refine Sorter.sort_alike (sameGrammar_ofConfig c) Sorter.isConcurrent_standard
    (Sorter.isConcurrent_int _ _) fun e records hread hsource =>
      (h.determinedOn e.fields records).readRows_alike [] schedule fun st => ?_
  refine congrArg (Except.mapError id) ?_
  -- without a pool nothing is delivered, and a pool delivers these rows as they are
  by_cases pool : 1 < c.decorateWorkers ∧ 1 < records.length
  · have raised := (h.determinedOn e.fields records).reraises_iff.mp
      (reraises e records hread hsource pool.1 pool.2) st
    rw [deliveredRows_eq _ raised, deliveredRows_eq _ raised]
  · rw [pooled_eq, decide_eq_false pool]
    rfl

variable (schedule) in
/-- Where a record cannot be read, the function fails with the fault of reading it, and a
record sorter with what its pool makes of it. -/
theorem BoundSorter.sort_of_unread {e : Expression} {records : List Record} {st : σ} {fault : Fault}
    (hread : (criterion.read Parser.standard).outcome = .ok e) (hsource : source.toList = .ok records)
    (hworkers : 1 < c.decorateWorkers) (hlength : 1 < records.length)
    (hfault : (decorate false [] e.fields extractors records).outcome st = .error fault) (st' : σ) :
    (sortBy source criterion extractors).outcome st' = .error fault
      ∧ ((ofConfig c).sort schedule source criterion extractors).outcome st'
        = .error fault.delivered := by
  have determined := h.determinedOn e.fields records
  rw [decorate_of_answers (determined.giveAnswers false [] st st), map_eq_error] at hfault
  have hread' : (criterion.read (ofConfig c).sorter.parser).outcome = .ok e := by
    rw [← ((sameGrammar_ofConfig c).read criterion).outcome, hread]
  have function := sort_error_of_answers (s := Sorter.standard) hread hsource
    Sorter.isConcurrent_standard (determined.giveAnswers false [] st st') hfault
  have pooled := sort_error_of_answers (s := (ofConfig c).sorter) hread' hsource
    (Sorter.isConcurrent_int _ _) (determined.giveAnswers _ schedule st st') hfault
  refine ⟨function, ?_⟩
  rw [BoundSorter.sort_of_criterion _ _ _ given, pooled, pooled_eq,
    if_pos (decide_eq_true ⟨hworkers, hlength⟩)]

end RecordSorters

end OrderBy
