/-
  OrderBy.Proofs.Reading.Concurrent
  ─────────────────────────────────
  **A SORT DOES NOT SHOW IN WHICH ORDER ITS TASKS TOOK THEIR READINGS.**

  Several workers read the records in any order, field by field, and some tasks may
  fail long before earlier ones.  As far as a reading depends on its record alone,
  the sort ends as a serial one does:

      no reading fails      the same order, each reading taken once
      some readings fail    the fault of the earliest record that has one, and there
                            of the earliest field, whichever failed first in time

  There is one exception: a pool of workers does not raise the end of an iteration
  again, but says that it has been stopped.
-/
import OrderBy.Proofs.Faults
import OrderBy.Proofs.Reading.Answers

namespace OrderBy

variable {σ : Type}

/-! ## §1. Sorts and answers. -/

/-- The readings that take place in a sort from a state on. -/
def sortReadings (concurrent : Bool) (schedule : List Nat) (e : Expression)
    (extractors : Extractors σ) (records : List Record) (st : σ) : List TakenReading :=
  (askRows concurrent schedule (distinct e.fields) records.length).readings extractors records st

section Phases

variable {s : Sorter} {source : Source} {criterion : Criterion} {e : Expression}
  {records : List Record} {concurrent : Bool} {schedule : List Nat} {extractors : Extractors σ}
  {st : σ}
  (hread : (criterion.read s.parser).outcome = .ok e) (hsource : source.toList = .ok records)
  (hworkers : s.isConcurrent = .ok concurrent)

include hread hsource hworkers

/-- The events of a sort: log lines, those of its readings, and then, if none has failed,
those of what is done with the rows. -/
theorem sortKeyed_events :
    (s.sortKeyed schedule source criterion extractors).events st
      = (criterion.read s.parser).events.map .log
        ++ ((askRows concurrent schedule (distinct e.fields) records.length).run extractors records
              >>= fun rows => sortAndLog e (decorateFrom e.fields 0 records rows)).events st := by
  rw [Sorter.sortKeyed_phases_events schedule extractors st hread hsource hworkers, run_askRows]
  rfl

/-- The readings that a sort attempts are those that take place in it. -/
theorem attempts_sortKeyed :
    attempts ((s.sortKeyed schedule source criterion extractors).events st)
      = (sortReadings concurrent schedule e extractors records st).map TakenReading.place := by
  rw [sortKeyed_events hread hsource hworkers, Run.events_bind, attempts_append, attempts_append,
    (without_log (fun _ => rfl) _).attempts_eq_nil, Dialogue.attempts_run, List.nil_append]
  -- nothing is read in front of the dialogue, and nothing behind it, if anything follows at all
  refine (congrArg (_ ++ ·) (Without.attempts_eq_nil ?_)).trans (List.append_nil _)
  split
  · exact sortAndLog_without e _ _
  · exact List.forall_mem_nil _

/-- **The outcome of a sort is that of comparing its rows.** -/
theorem sortKeyed_outcome :
    (s.sortKeyed schedule source criterion extractors).outcome st
      = ((askRows concurrent schedule (distinct e.fields) records.length).run extractors
            records).outcome st >>= fun rows =>
          (sortDecorated e.directions (decorateFrom e.fields 0 records rows)).outcome := by
  rw [Sorter.sortKeyed_phases_outcome schedule extractors st hread hsource hworkers, run_askRows]
  show (readRows concurrent schedule (accessorsOf extractors (distinct e.fields)) records
    >>= _).outcome st = _
  cases h : (readRows concurrent schedule (accessorsOf extractors (distinct e.fields))
      records).outcome st with
  | error fault => exact Run.outcome_bind_error h _
  | ok rows => exact (Run.outcome_bind_ok h _).trans (sortAndLog_outcome e _ _)

/-- Where the readings give answers, the rows of a sort are those of the answers, as they are
delivered. -/
theorem sortKeyed_of_answers {answer : Nat → String → Except Fault Value}
    (hanswers : GiveAnswers answer (sortReadings concurrent schedule e extractors records st)) :
    (s.sortKeyed schedule source criterion extractors).outcome st
      = deliveredRows (concurrent && decide (1 < records.length))
            (answeredRows answer (distinct e.fields) (List.range records.length)) >>= fun rows =>
          (sortDecorated e.directions (decorateFrom e.fields 0 records rows)).outcome := by
  rw [sortKeyed_outcome hread hsource hworkers, Dialogue.run_of_giveAnswers hanswers,
    answered_askRows]

/-- Where the rows of the answers are a fault, so is the sort, as it is delivered. -/
theorem sort_error_of_answers {answer : Nat → String → Except Fault Value} {fault : Fault}
    (hanswers : GiveAnswers answer (sortReadings concurrent schedule e extractors records st))
    (hrows : answeredRows answer (distinct e.fields) (List.range records.length) = .error fault) :
    (s.sort schedule source criterion extractors).outcome st
      = .error (if concurrent && decide (1 < records.length) then fault.delivered else fault) := by
  unfold Sorter.sort
  rw [Run.outcome_map, sortKeyed_of_answers hread hsource hworkers hanswers, hrows,
    deliveredRows_error]
  rfl

variable (schedule extractors st) in
/-- **No reading is attempted twice, and a sort that returns has attempted all of them.** -/
theorem attempts_sortKeyed_perm :
    ∃ left, (places (List.range records.length) (distinct e.fields)).Perm
        (attempts ((s.sortKeyed schedule source criterion extractors).events st) ++ left)
      ∧ ∀ out, (s.sortKeyed schedule source criterion extractors).outcome st = .ok out →
          left = [] := by
  obtain ⟨left, perm, result⟩ := (spends_askRows concurrent schedule (distinct e.fields)
    records.length).readings extractors records st
  rw [attempts_sortKeyed hread hsource hworkers, sortKeyed_outcome hread hsource hworkers]
  refine ⟨left, perm, fun out hout => ?_⟩
  cases hrows : ((askRows concurrent schedule (distinct e.fields) records.length).run extractors
      records).outcome st with
  | ok rows => exact result rows hrows
  | error fault =>
      rw [hrows] at hout
      cases hout

end Phases

/-! ## §2. Readings that depend on the record alone. -/

/-- Each of these fields of each of these records reads as the same value or fault from
every state. -/
def DeterminedOn (extractors : Extractors σ) (fields : List String) (records : List Record) : Prop :=
  ∀ f ∈ fields, ∀ r ∈ records, ∀ st st' : σ,
    ((Accessor.forField extractors f).read r).outcome st
      = ((Accessor.forField extractors f).read r).outcome st'

/-- What a state answers: the outcome that the reading of a place has in it. -/
def answerFrom (extractors : Extractors σ) (records : List Record) (st : σ) (position : Nat)
    (field : String) : Except Fault Value :=
  (takeAt extractors records position field).outcome st

theorem answerFrom_of_getElem? {extractors : Extractors σ} {records : List Record} {i : Nat}
    {r : Record} (h : records[i]? = some r) (st : σ) (f : String) :
    answerFrom extractors records st i f = ((Accessor.forField extractors f).read r).outcome st := by
  unfold answerFrom
  rw [takeAt_of_getElem? h, readOne_outcome]

/-- **Determined readings give the same answers in every sort.** -/
theorem DeterminedOn.giveAnswers {extractors : Extractors σ} {e : Expression}
    {records : List Record} (h : DeterminedOn extractors e.fields records) (concurrent : Bool)
    (schedule : List Nat) (st st' : σ) :
    GiveAnswers (answerFrom extractors records st)
      (sortReadings concurrent schedule e extractors records st') := by
  refine (spends_askRows concurrent schedule (distinct e.fields) records.length).giveAnswers
    (fun x hx st'' => ?_) st'
  obtain ⟨hi, hf⟩ := mem_places.mp hx
  have inside := List.mem_range.mp hi
  have hr : records[x.1]? = some records[x.1] := List.getElem?_eq_getElem inside
  rw [answerFrom_of_getElem? hr, takeAt_of_getElem? hr, readOne_outcome]
  exact h x.2 ((mem_distinct x.2).mp hf) records[x.1] (List.getElem_mem inside) st'' st

/-- Reading the records one after the other does not end with the end of an iteration, the
only fault that a pool of workers does not raise again as it is. -/
def Reraises (extractors : Extractors σ) (e : Expression) (records : List Record) : Prop :=
  ∀ st fault, (decorate false [] e.fields extractors records).outcome st = .error fault →
    fault.endsIteration = false

/-- So it is if no reading comes upon the end of an iteration. -/
theorem Reraises.of_readings {extractors : Extractors σ} {e : Expression} {records : List Record}
    (h : ∀ f ∈ e.fields, ∀ r ∈ records,
      Run.FailsOnly (·.endsIteration = false) ((Accessor.forField extractors f).read r)) :
    Reraises extractors e records :=
  decorate_failsOnly h

/-- What a decoration gives is known from the answers to its readings. -/
theorem decorate_of_answers {concurrent : Bool} {schedule : List Nat} {e : Expression}
    {extractors : Extractors σ} {records : List Record} {st : σ}
    {answer : Nat → String → Except Fault Value}
    (hanswers : GiveAnswers answer (sortReadings concurrent schedule e extractors records st)) :
    (decorate concurrent schedule e.fields extractors records).outcome st
      = decorateFrom e.fields 0 records <$> deliveredRows (concurrent && decide (1 < records.length))
          (answeredRows answer (distinct e.fields) (List.range records.length)) := by
  rw [decorate_eq, bind_pure_comp, Run.outcome_map, ← answered_askRows concurrent schedule,
    ← Dialogue.run_of_giveAnswers hanswers, run_askRows]
  rfl

/-- Of determined readings it is said by the answers of each state. -/
theorem DeterminedOn.reraises_iff {extractors : Extractors σ} {e : Expression}
    {records : List Record} (h : DeterminedOn extractors e.fields records) :
    Reraises extractors e records ↔ ∀ st fault,
      answeredRows (answerFrom extractors records st) (distinct e.fields)
          (List.range records.length) = .error fault → fault.endsIteration = false := by
  refine forall_congr' fun st => forall_congr' fun fault => ?_
  rw [decorate_of_answers (h.giveAnswers false [] st st), map_eq_error]
  rfl

/-- The positions of a list of records: those of its first records, that of one record,
and those behind. -/
theorem range_length_append_cons (earlier : List Record) (r : Record) (later : List Record) :
    List.range (earlier ++ r :: later).length
      = List.range earlier.length
        ++ earlier.length :: List.range' (earlier.length + 1) later.length := by
  have parts := List.range'_append_1 (s := 0) (m := earlier.length) (n := later.length + 1)
  rw [Nat.zero_add, List.range'_succ] at parts
  rw [List.length_append, List.length_cons, List.range_eq_range', List.range_eq_range', parts]

/-- The rows of some records stop at the earliest field of the earliest record that cannot
be read. -/
theorem answeredRows_of_fault {extractors : Extractors σ} {earlier : List Record} {r : Record}
    (later : List Record) {fields others : List String} {f : String} {fault : Fault} {st : σ}
    (hearlier : ∀ r' ∈ earlier, ∀ g ∈ fields ++ f :: others,
      ∃ v, ((Accessor.forField extractors g).read r').outcome st = .ok v)
    (hfields : ∀ g ∈ fields, ∃ v, ((Accessor.forField extractors g).read r).outcome st = .ok v)
    (hf : ((Accessor.forField extractors f).read r).outcome st = .error fault) :
    answeredRows (answerFrom extractors (earlier ++ r :: later) st) (fields ++ f :: others)
      (List.range (earlier ++ r :: later).length) = .error fault := by
  have here : ∀ g, answerFrom extractors (earlier ++ r :: later) st earlier.length g
      = ((Accessor.forField extractors g).read r).outcome st :=
    answerFrom_of_getElem? (by rw [List.getElem?_append_right (Nat.le_refl _), Nat.sub_self]; rfl) st
  rw [range_length_append_cons]
  refine answeredRows_error ?_ (fun g hg => ?_) _ (fun j hj g hg => ?_)
  · rw [here, hf]
  · rw [here]
    exact hfields g hg
  · have inside : j < earlier.length := List.mem_range.mp hj
    have before : (earlier ++ r :: later)[j]? = some earlier[j] := by
      rw [List.getElem?_append_left inside, List.getElem?_eq_getElem inside]
    rw [answerFrom_of_getElem? before]
    exact hearlier _ (List.getElem_mem inside) g hg

/-! ## §3. Schedules. -/

/-- **Concurrent sorts end as serial ones.**  Whatever the workers and the schedule are, a
sort whose readings depend on the record alone has the outcome of a serial sort, if the pool
raises the fault of a task again; a reading that fails, with all earlier records and all
earlier fields of its record read, gives its fault to the sort, by way of the pool if there
is one; and a sort that returns has taken each reading once. -/
theorem sort_anySchedule (p : Parser) (workers : Int) (schedule : List Nat) (source : Source)
    (criterion : Criterion) (extractors : Extractors σ) (st st' : σ) {e : Expression}
    {records : List Record} (hread : (criterion.read p).outcome = .ok e)
    (hsource : source.toList = .ok records)
    (hdetermined : DeterminedOn extractors e.fields records) :
    (Reraises extractors e records →
        ((Sorter.mk p (.int workers)).sortKeyed schedule source criterion extractors).outcome st
            = ((Sorter.mk p (.int 0)).sortKeyed [] source criterion extractors).outcome st'
          ∧ ((Sorter.mk p (.int workers)).sort schedule source criterion extractors).outcome st
            = ((Sorter.mk p (.int 0)).sort [] source criterion extractors).outcome st')
      ∧ (∀ earlier r later fields f others fault, records = earlier ++ r :: later →
          e.fields.eraseDups = fields ++ f :: others →
          (∀ r' ∈ earlier, ∀ g ∈ e.fields,
            ∃ v, ((Accessor.forField extractors g).read r').outcome st = .ok v) →
          (∀ g ∈ fields, ∃ v, ((Accessor.forField extractors g).read r).outcome st = .ok v) →
          ((Accessor.forField extractors f).read r).outcome st = .error fault →
          ((Sorter.mk p (.int workers)).sort schedule source criterion extractors).outcome st
            = .error (if 1 < workers ∧ 1 < records.length then fault.delivered else fault))
      ∧ (∀ out,
          ((Sorter.mk p (.int workers)).sort schedule source criterion extractors).outcome st
            = .ok out →
          (attempts (((Sorter.mk p (.int workers)).sort schedule source criterion
              extractors).events st)).Perm (places (List.range records.length) e.fields.eraseDups))
      ∧ (places (List.range records.length) e.fields.eraseDups).Nodup := by
  have hworkers := Sorter.isConcurrent_int p workers
  have hserial : (Sorter.mk p (.int 0)).isConcurrent = .ok false := Sorter.isConcurrent_int p 0
  -- both sorts are brought down to the answers that the readings give from one state on
  have answers := hdetermined.giveAnswers (decide (1 < workers)) schedule st st
  have keyed := sortKeyed_of_answers (s := Sorter.mk p (.int workers)) hread hsource hworkers answers
  have serial := sortKeyed_of_answers (s := Sorter.mk p (.int 0)) hread hsource hserial
    (hdetermined.giveAnswers false [] st st')
  refine ⟨fun reraises => ?_, ?_, ?_, nodup_places List.nodup_range (nodup_eraseDups _)⟩
  · rw [deliveredRows_eq _ (hdetermined.reraises_iff.mp reraises st)] at keyed
    have same := keyed.trans serial.symm
    refine ⟨same, ?_⟩
    unfold Sorter.sort
    rw [Run.outcome_map, Run.outcome_map, same]
  · rintro earlier r later fields f others fault rfl split hearlier hfields hf
    have inFields : ∀ g ∈ fields ++ f :: others, g ∈ e.fields := fun g hg =>
      List.mem_eraseDups.mp (split ▸ hg)
    have rows := answeredRows_of_fault later
      (fun r' hr' g hg => hearlier r' hr' g (inFields g hg)) hfields hf
    rw [← split, ← distinct_eq_eraseDups] at rows
    refine (sort_error_of_answers (s := Sorter.mk p (.int workers)) hread hsource hworkers answers
      rows).trans ?_
    simp only [Bool.and_eq_true, decide_eq_true_eq]
  · intro out hout
    unfold Sorter.sort at hout ⊢
    rw [Run.outcome_map] at hout
    -- no reading is left over, since there is a result
    obtain ⟨left, perm, complete⟩ := attempts_sortKeyed_perm schedule extractors st
      (s := Sorter.mk p (.int workers)) hread hsource hworkers
    rw [Run.events_map, ← distinct_eq_eraseDups]
    cases hkeyed : ((Sorter.mk p (.int workers)).sortKeyed schedule source criterion
        extractors).outcome st with
    | error fault =>
        rw [hkeyed] at hout
        cases hout
    | ok sorted =>
        rw [complete sorted hkeyed, List.append_nil] at perm
        exact perm.symm

/-- An extractor that counts its calls and fails on all records but the first. -/
def failsBehindFirst : Reading Nat := fun r calls =>
  (⟨[], if r.id = 0 then .ok (.int 5) else .error (.missingKey (.int r.id))⟩, calls + 1)

/-- Two workers, and a schedule under which the last record fails first: the sort fails as
the record in the middle does. -/
theorem sort_anySchedule_lastFailsFirst :
    DeterminedOn [("b", some failsBehindFirst)] repeatedB.fields threeWithA
      ∧ attempts (((Sorter.mk Parser.standard (.int 2)).sort [2, 1, 0] (.records threeWithA)
          (.parsed repeatedB) [("b", some failsBehindFirst)]).events 0)
          = [(2, "b"), (1, "b"), (0, "b"), (0, "a")]
      ∧ ((Sorter.mk Parser.standard (.int 2)).sort [2, 1, 0] (.records threeWithA)
          (.parsed repeatedB) [("b", some failsBehindFirst)]).outcome 0
          = .error (.missingKey (.int 1))
      ∧ ((Sorter.mk Parser.standard (.int 0)).sort [] (.records threeWithA)
          (.parsed repeatedB) [("b", some failsBehindFirst)]).outcome 7
          = .error (.missingKey (.int 1)) := by
  have determined : DeterminedOn [("b", some failsBehindFirst)] repeatedB.fields threeWithA := by
    intro f hf r _ st st'
    have named : f = "b" ∨ f = "a" ∨ f = "b" := by
      simpa [Expression.fields, repeatedB] using hf
    rcases named with rfl | rfl | rfl <;> rfl
  have reraises : Reraises [("b", some failsBehindFirst)] repeatedB threeWithA := by
    refine .of_readings fun f hf r hr st fault failed => ?_
    have named : f = "b" ∨ f = "a" ∨ f = "b" := by
      simpa [Expression.fields, repeatedB] using hf
    obtain ⟨n, hn, rfl⟩ := List.mem_map.mp hr
    have inside : n < 3 := List.mem_range.mp hn
    have numbered : n = 0 ∨ n = 1 ∨ n = 2 := by omega
    rcases named with rfl | rfl | rfl <;> rcases numbered with rfl | rfl | rfl <;>
      cases failed <;> rfl
  obtain ⟨same, failing, _⟩ := sort_anySchedule Parser.standard 2 [2, 1, 0]
    (.records threeWithA) (.parsed repeatedB) [("b", some failsBehindFirst)] 0 7
    (e := repeatedB) rfl rfl determined
  have fault := failing [⟨0, _⟩] ⟨1, _⟩ [⟨2, _⟩] [] "b" ["a"] (.missingKey (.int 1)) rfl rfl (by
      intro r' hr' g hg
      obtain rfl := List.mem_singleton.mp hr'
      have named : g = "b" ∨ g = "a" ∨ g = "b" := by
        simpa [Expression.fields, repeatedB] using hg
      rcases named with rfl | rfl | rfl <;> exact ⟨_, rfl⟩)
    (List.forall_mem_nil _) rfl
  refine ⟨determined, ?_, fault, (same reraises).2.symm.trans fault⟩
  unfold Sorter.sort
  rw [Run.events_map, attempts_sortKeyed (e := repeatedB) rfl rfl (Sorter.isConcurrent_int _ 2)]
  rfl

end OrderBy
