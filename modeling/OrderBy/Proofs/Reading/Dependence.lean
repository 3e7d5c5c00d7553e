/-
  OrderBy.Proofs.Reading.Dependence
  ─────────────────────────────────
  **THE ORDER DEPENDS ON NOTHING BUT THE OUTCOMES OF READING THE NAMED FIELDS.**

  Two sorts by one expression whose readings have the same outcomes, place by place,
  put their records into the same order or fail with the same fault, and ask the same
  comparisons on the way.  Records themselves are compared in neither, not even where
  all their values tie, since the records of the two sorts need have nothing in common:

      same answers   →   same rows of values   →   same comparisons   →   same order

  Workers, schedules, the state of extractors and everything else that the readings do
  not see may differ.  Only a reading that comes upon the end of an iteration shows
  whether there is a pool, which says so in other words.
-/
import OrderBy.Proofs.Reading.Alteration
import OrderBy.Proofs.Reading.Concurrent
import OrderBy.Proofs.Sorting.Naturality

namespace OrderBy

variable {σ σ' : Type}

/-! ## §1. Comparing does not look at records. -/

/-- A decorated record with the record left out. -/
def Decorated.blank (d : Decorated) : Decorated := ⟨d.position, ⟨0, .plain .null⟩, d.key⟩

/-- **Sorting and then leaving the records out is sorting without them.** -/
theorem sortDecorated_blank (ds : List Direction) (xs : List Decorated) :
    sortDecorated ds (xs.map Decorated.blank) = List.map Decorated.blank <$> sortDecorated ds xs :=
  BinaryInsertion.sort_map (fun _ _ => rfl) xs

/-- Decorations that differ in their records only are compared in the same way and have
the same order. -/
theorem sortDecorated_congr (ds : List Direction) {xs xs' : List Decorated}
    (h : xs.map Decorated.blank = xs'.map Decorated.blank) :
    (sortDecorated ds xs).events = (sortDecorated ds xs').events
      ∧ List.map Decorated.position <$> (sortDecorated ds xs).outcome
        = List.map Decorated.position <$> (sortDecorated ds xs').outcome := by
  have positions : ∀ o : Except Fault (List Decorated), List.map Decorated.position <$> o
      = List.map Decorated.position <$> (List.map Decorated.blank <$> o) := by
    intro o
    cases o with
    | error fault => rfl
    | ok out =>
        show Except.ok _ = Except.ok ((out.map Decorated.blank).map Decorated.position)
        rw [List.map_map]
        rfl
  -- both sorts are sorts of the same blank records
  have blanks := sortDecorated_blank ds xs
  rw [h, sortDecorated_blank ds xs'] at blanks
  have events := congrArg Traced.events blanks
  have outcomes := congrArg Traced.outcome blanks
  rw [Traced.events_map, Traced.events_map] at events
  rw [Traced.outcome_map, Traced.outcome_map] at outcomes
  exact ⟨events.symm, by rw [positions, ← outcomes, ← positions]⟩

/-- Decorating different records with the same rows differs in the records only. -/
theorem decorateFrom_blank (fields : List String) :
    ∀ {records records' : List Record} (position : Nat) (rows : List FieldValues),
      records'.length = records.length →
      (decorateFrom fields position records rows).map Decorated.blank
        = (decorateFrom fields position records' rows).map Decorated.blank
  | [], [], _, _, _ => rfl
  | [], _ :: _, _, _, h => nomatch h
  | _ :: _, [], _, _, h => nomatch h
  | _ :: _, _ :: _, _, [], _ => rfl
  | _ :: _, _ :: _, position, _ :: rows, h =>
      congrArg (_ :: ·) (decorateFrom_blank fields (position + 1) rows (Nat.succ.inj h))

/-! ## §2. Orders and comparisons. -/

namespace Sorter

/-- The order that a sort puts its records into: their positions in the input, first to
last, or its fault. -/
def order (s : Sorter) (schedule : List Nat) (source : Source) (criterion : Criterion)
    (extractors : Extractors σ) (st : σ) : Except Fault (List Nat) :=
  List.map Decorated.position <$> (s.sortKeyed schedule source criterion extractors).outcome st

/-- The comparisons that a sort makes. -/
def comparisons (s : Sorter) (schedule : List Nat) (source : Source) (criterion : Criterion)
    (extractors : Extractors σ) (st : σ) : List Event :=
  ((s.sortKeyed schedule source criterion extractors).events st).filter Event.isComparing

end Sorter

/-- Running a dialogue leaves events of readings only. -/
theorem Dialogue.run_without {α : Type} {extractors : Extractors σ} {records : List Record}
    {kind : Event → Bool} (hkind : ∀ ev, ev.isReading = true → kind ev = false) :
    ∀ (t : Dialogue α) (st : σ), Without kind ((t.run extractors records).events st)
  | done _, _ => List.forall_mem_nil _
  | ask position field next, st => by
      rw [run_ask, Run.events_bind_ok (Run.outcome_attempt _ st), Run.events_attempt]
      exact (DueReading.take_without hkind ⟨position, _, field, _⟩ st).append
        (run_without hkind _ _)

theorem Without.filter_eq_nil {kind : Event → Bool} {events : List Event} (h : Without kind events) :
    events.filter kind = [] :=
  List.filter_eq_nil_iff.mpr fun ev hev => by rw [h ev hev]; exact Bool.false_ne_true

/-- Rows that have been asked for are those of a decoration. -/
theorem decorate_of_rows {concurrent : Bool} {schedule : List Nat} {fields : List String}
    {extractors : Extractors σ} {records : List Record} {st : σ} {rows : List FieldValues}
    (h : ((askRows concurrent schedule (distinct fields) records.length).run extractors
      records).outcome st = .ok rows) :
    (decorate concurrent schedule fields extractors records).outcome st
      = .ok (decorateFrom fields 0 records rows) := by
  rw [run_askRows] at h
  rw [decorate_eq]
  exact Run.outcome_bind_ok h _

section Phases

variable {s : Sorter} {source : Source} {criterion : Criterion} {e : Expression}
  {records : List Record} {concurrent : Bool} {schedule : List Nat} {extractors : Extractors σ}
  {st : σ}
  (hread : (criterion.read s.parser).outcome = .ok e) (hsource : source.toList = .ok records)
  (hworkers : s.isConcurrent = .ok concurrent)

include hread hsource hworkers

/-- The order of a sort is that of its rows. -/
theorem order_eq :
    s.order schedule source criterion extractors st
      = ((askRows concurrent schedule (distinct e.fields) records.length).run extractors
            records).outcome st >>= fun rows =>
          List.map Decorated.position
            <$> (sortDecorated e.directions (decorateFrom e.fields 0 records rows)).outcome := by
  unfold Sorter.order
  rw [sortKeyed_outcome hread hsource hworkers, map_bind]

/-- The comparisons of a sort are those of its rows. -/
theorem comparisons_eq :
    s.comparisons schedule source criterion extractors st
      = match ((askRows concurrent schedule (distinct e.fields) records.length).run extractors
            records).outcome st with
        | .ok rows => (sortDecorated e.directions
            (decorateFrom e.fields 0 records rows)).events.filter Event.isComparing
        | .error _ => [] := by
  unfold Sorter.comparisons
  rw [sortKeyed_events hread hsource hworkers, List.filter_append,
    (without_log (fun _ => rfl) _).filter_eq_nil, List.nil_append, Run.events_bind,
    List.filter_append, (Dialogue.run_without Event.not_isComparing _ st).filter_eq_nil,
    List.nil_append]
  cases ((askRows concurrent schedule (distinct e.fields) records.length).run extractors
      records).outcome st with
  | error fault => rfl
  | ok rows =>
      show ((sortAndLog e (decorateFrom e.fields 0 records rows)).events _).filter _ = _
      unfold sortAndLog
      rw [Run.events_bind, List.filter_append, Run.events_lift, Run.outcome_lift]
      cases (sortDecorated e.directions (decorateFrom e.fields 0 records rows)).outcome <;>
        exact List.append_nil _

/-- Where the readings give answers, the order is that of the rows of the answers. -/
theorem order_of_answers {answer : Nat → String → Except Fault Value}
    (give : GiveAnswers answer (sortReadings concurrent schedule e extractors records st)) :
    s.order schedule source criterion extractors st
      = deliveredRows (concurrent && decide (1 < records.length))
            (answeredRows answer (distinct e.fields) (List.range records.length)) >>= fun rows =>
          List.map Decorated.position
            <$> (sortDecorated e.directions (decorateFrom e.fields 0 records rows)).outcome := by
  rw [order_eq hread hsource hworkers, Dialogue.run_of_giveAnswers give, answered_askRows]

/-- And the comparisons are theirs, however they have been delivered. -/
theorem comparisons_of_answers {answer : Nat → String → Except Fault Value}
    (give : GiveAnswers answer (sortReadings concurrent schedule e extractors records st)) :
    s.comparisons schedule source criterion extractors st
      = match answeredRows answer (distinct e.fields) (List.range records.length) with
        | .ok rows => (sortDecorated e.directions
            (decorateFrom e.fields 0 records rows)).events.filter Event.isComparing
        | .error _ => [] := by
  rw [comparisons_eq hread hsource hworkers, Dialogue.run_of_giveAnswers give, answered_askRows]
  cases h : answeredRows answer (distinct e.fields) (List.range records.length) with
  | ok rows => rw [deliveredRows_eq_ok.mpr rfl]
  | error fault => rw [deliveredRows_error]

/-- **The order says which records come out**: those at its positions. -/
theorem sort_outcome_of_order :
    (s.sort schedule source criterion extractors).outcome st
      = List.filterMap (fun i => records[i]?) <$> s.order schedule source criterion extractors st := by
  unfold Sorter.sort Sorter.order
  rw [Run.outcome_map]
  cases h : (s.sortKeyed schedule source criterion extractors).outcome st with
  | error fault => rfl
  | ok out =>
      rw [sortKeyed_outcome hread hsource hworkers] at h
      cases hrows : ((askRows concurrent schedule (distinct e.fields) records.length).run extractors
          records).outcome st with
      | error fault =>
          rw [hrows] at h
          cases h
      | ok rows =>
          rw [hrows] at h
          -- sorting moves decorated records as a whole, so each keeps its position
          have at_position := (decorate_shape (decorate_of_rows hrows)).record_at
          have kept : ∀ d ∈ out, records[d.position]? = some d.record :=
            fun d hd => at_position d (((sortDecorated_without_perm _ _).2 out h).mem_iff.mp hd)
          refine congrArg Except.ok (Eq.symm ?_)
          rw [List.filterMap_map]
          exact (List.filterMap_congr kept).trans (congrFun List.filterMap_eq_map _)

/-- The readings of a sort have answers, since no place is read twice. -/
theorem exists_answers :
    ∃ answer, GiveAnswers answer (sortReadings concurrent schedule e extractors records st) := by
  obtain ⟨left, perm, -⟩ := attempts_sortKeyed_perm schedule extractors st
    hread hsource hworkers
  rw [attempts_sortKeyed hread hsource hworkers] at perm
  have once : (places (List.range records.length) (distinct e.fields)).Nodup := by
    rw [distinct_eq_eraseDups]
    exact nodup_places List.nodup_range (nodup_eraseDups _)
  exact exists_giveAnswers (List.nodup_append.mp (perm.nodup_iff.mp once)).1

end Phases

/-! ## §3. Two sorts. -/

section TwoSorts

variable {s s' : Sorter} {source source' : Source} {criterion criterion' : Criterion}
  {e : Expression} {records records' : List Record} {concurrent concurrent' : Bool}
  {schedule schedule' : List Nat} {extractors : Extractors σ} {extractors' : Extractors σ'}
  {st : σ} {st' : σ'}

/-- **Sorts with the same rows of values have the same order and the same comparisons.** -/
theorem order_comparisons_of_rows (hread : (criterion.read s.parser).outcome = .ok e)
    (hread' : (criterion'.read s'.parser).outcome = .ok e) (hsource : source.toList = .ok records)
    (hsource' : source'.toList = .ok records') (hsize : records'.length = records.length)
    (hworkers : s.isConcurrent = .ok concurrent) (hworkers' : s'.isConcurrent = .ok concurrent')
    (hrows : ((askRows concurrent schedule (distinct e.fields) records.length).run extractors
          records).outcome st
        = ((askRows concurrent' schedule' (distinct e.fields) records'.length).run extractors'
            records').outcome st') :
    s.order schedule source criterion extractors st
        = s'.order schedule' source' criterion' extractors' st'
      ∧ s.comparisons schedule source criterion extractors st
        = s'.comparisons schedule' source' criterion' extractors' st' := by
  -- the rows decide, since the records they are joined with do not show
  have congr := fun rows =>
    sortDecorated_congr e.directions (decorateFrom_blank e.fields 0 rows hsize)
  rw [order_eq hread hsource hworkers, order_eq hread' hsource' hworkers',
    comparisons_eq hread hsource hworkers, comparisons_eq hread' hsource' hworkers', hrows]
  cases ((askRows concurrent' schedule' (distinct e.fields) records'.length).run extractors'
      records').outcome st' with
  | error fault => exact ⟨rfl, rfl⟩
  | ok rows => exact ⟨(congr rows).2, congrArg (List.filter _) (congr rows).1⟩

/-- **Sorts whose readings give the same answers make the same comparisons and have the same
order**, up to the way in which the fault of a reading is delivered. -/
theorem order_comparisons_of_answers {answer : Nat → String → Except Fault Value}
    (hread : (criterion.read s.parser).outcome = .ok e)
    (hread' : (criterion'.read s'.parser).outcome = .ok e) (hsource : source.toList = .ok records)
    (hsource' : source'.toList = .ok records') (hsize : records'.length = records.length)
    (hworkers : s.isConcurrent = .ok concurrent) (hworkers' : s'.isConcurrent = .ok concurrent')
    (give : GiveAnswers answer (sortReadings concurrent schedule e extractors records st))
    (give' : GiveAnswers answer (sortReadings concurrent' schedule' e extractors' records' st')) :
    s.comparisons schedule source criterion extractors st
        = s'.comparisons schedule' source' criterion' extractors' st'
      ∧ (s.order schedule source criterion extractors st).mapError Fault.delivered
        = (s'.order schedule' source' criterion' extractors' st').mapError Fault.delivered
      ∧ ((concurrent && decide (1 < records.length))
            = (concurrent' && decide (1 < records'.length))
          ∨ (∀ i f fault, answer i f = .error fault → fault.endsIteration = false) →
          s.order schedule source criterion extractors st
            = s'.order schedule' source' criterion' extractors' st') := by
  -- the rows decide, since the records they are joined with do not show
  have congr := fun rows =>
    sortDecorated_congr e.directions (decorateFrom_blank e.fields 0 rows hsize)
  rw [order_of_answers hread hsource hworkers give,
    order_of_answers hread' hsource' hworkers' give',
    comparisons_of_answers hread hsource hworkers give,
    comparisons_of_answers hread' hsource' hworkers' give', hsize,
    ← funext fun rows => (congr rows).2]
  refine ⟨?_, ?_, ?_⟩
  · cases answeredRows answer (distinct e.fields) (List.range records.length) with
    | error fault => rfl
    | ok rows => exact congrArg (List.filter _) (congr rows).1
  · rw [mapError_deliveredRows_bind, mapError_deliveredRows_bind]
  · rintro (pooled | passes)
    · rw [pooled]
    · have raised : ∀ fault, answeredRows answer (distinct e.fields)
          (List.range records.length) = .error fault → fault.endsIteration = false := by
        intro fault failed
        obtain ⟨i, _, f, _, answered⟩ := exists_answer_of_answeredRows failed
        exact passes i f fault answered
      rw [deliveredRows_eq _ raised, deliveredRows_eq _ raised]

end TwoSorts

/-- **The order depends on nothing but the outcomes of reading the named fields.**

The order of a sort says which records come out.  Any other sort by the same expression
of as many records, be they what they may, has the same order or fault and makes the same
comparisons if the readings of both give the same answers; and readings do give answers.
A pool of workers says in its own words that an iteration has ended, so that this fault is
the same if both sorts have a pool or neither has.
In particular, an alteration that leaves alone what the named fields are read from leaves
alone the order: of other fields, of extractors under other names, of the attributes of
mappings, and of what a record has under a name that an extractor is registered for.  A
key that a mapping lacks is missing whatever its attributes are. -/
theorem order_dependsOnAnswers (s s' : Sorter) (schedule schedule' : List Nat)
    (source source' : Source) (criterion criterion' : Criterion) (extractors : Extractors σ)
    (extractors' : Extractors σ') (st : σ) (st' : σ') {e : Expression}
    {records records' : List Record} {concurrent concurrent' : Bool}
    (hread : (criterion.read s.parser).outcome = .ok e)
    (hread' : (criterion'.read s'.parser).outcome = .ok e) (hsource : source.toList = .ok records)
    (hsource' : source'.toList = .ok records') (hsize : records'.length = records.length)
    (hworkers : s.isConcurrent = .ok concurrent) (hworkers' : s'.isConcurrent = .ok concurrent') :
    (s.sort schedule source criterion extractors).outcome st
        = List.filterMap (fun i => records[i]?) <$> s.order schedule source criterion extractors st
      ∧ (∀ answer, GiveAnswers answer (sortReadings concurrent schedule e extractors records st) →
          GiveAnswers answer (sortReadings concurrent' schedule' e extractors' records' st') →
          s.comparisons schedule source criterion extractors st
              = s'.comparisons schedule' source' criterion' extractors' st'
            ∧ (s.order schedule source criterion extractors st).mapError Fault.delivered
              = (s'.order schedule' source' criterion' extractors' st').mapError Fault.delivered
            ∧ ((concurrent && decide (1 < records.length))
                  = (concurrent' && decide (1 < records'.length))
                ∨ (∀ i f fault, answer i f = .error fault → fault.endsIteration = false) →
                s.order schedule source criterion extractors st
                  = s'.order schedule' source' criterion' extractors' st'))
      ∧ (∃ answer, GiveAnswers answer (sortReadings concurrent schedule e extractors records st))
      ∧ (∀ (altered : Extractors σ) (source₂ : Source) (records₂ : List Record),
          source₂.toList = .ok records₂ → Altered e.fields extractors altered records records₂ →
          s.order schedule source criterion extractors st
              = s.order schedule source₂ criterion altered st
            ∧ s.comparisons schedule source criterion extractors st
              = s.comparisons schedule source₂ criterion altered st)
      ∧ (∀ r g v, g ∉ ownFields extractors e.fields →
          Record.AgreeOn (ownFields extractors e.fields) r (r.setField g v))
      ∧ (∀ id entries attributes f, extractors.lookup f = none → entries.lookup f = none →
          ((Accessor.forField extractors f).read ⟨id, .mapping entries attributes⟩).outcome st
            = .error (.missingKey (.text f))) := by
  refine ⟨sort_outcome_of_order hread hsource hworkers, fun answer =>
    order_comparisons_of_answers hread hread' hsource hsource' hsize hworkers hworkers',
    exists_answers hread hsource hworkers, ?_, fun r g v hg => Record.agreeOn_setField r hg v, ?_⟩
  · -- here the dialogue is the same one, and is run on what it cannot tell apart
    intro altered source₂ records₂ hsource₂ halter
    refine order_comparisons_of_rows hread hread hsource hsource₂ halter.size hworkers hworkers ?_
    rw [halter.size]
    refine (spends_askRows concurrent schedule (distinct e.fields) records.length).run_congr
      (fun x hx st'' => ?_) st
    obtain ⟨hi, hf⟩ := mem_places.mp hx
    exact halter.takeAt (List.mem_range.mp hi) ((mem_distinct x.2).mp hf) st''
  · intro id entries attributes f unregistered missing
    unfold Accessor.forField
    rw [unregistered]
    show ((⟨id, .mapping entries attributes⟩ : Record).readField f).outcome = _
    rw [Record.readField_mapping, missing]

/-- Three mappings with a text under `a`, and an attribute of that name that is none. -/
def mappingsWithA : List Record :=
  [⟨0, .mapping [("a", .text "x")] [("a", .null)]⟩, ⟨1, .mapping [("a", .text "w")] [("a", .null)]⟩,
   ⟨2, .mapping [("a", .text "x")] [("a", .null)]⟩]

/-- The key `a`. -/
def soleA : Expression := ⟨"a", [⟨"a", .ascending, isFieldName_a⟩], List.cons_ne_nil _ _⟩

/-- An extractor that gives the same texts and counts its calls. -/
def textOfId : Reading Nat := fun r calls =>
  (⟨[.call "a"], .ok (.text (if r.id = 1 then "w" else "x"))⟩, calls + 1)

/-- The answers of both: the first and the last record tie. -/
def tyingAnswers (position : Nat) (_ : String) : Except Fault Value :=
  .ok (.text (if position = 1 then "w" else "x"))

/-- Two workers that read mappings, the last one first, and a serial sort of other records
through an extractor: the order is the same. -/
theorem order_dependsOnAnswers_tied :
    GiveAnswers tyingAnswers (sortReadings true [2] soleA [] mappingsWithA ())
      ∧ GiveAnswers tyingAnswers
          (sortReadings false [] soleA [("a", some textOfId)] threeWithA 5)
      ∧ (Sorter.mk Parser.standard (.int 2)).order [2] (.records mappingsWithA)
          (.parsed soleA) ([] : Extractors Unit) () = .ok [1, 0, 2]
      ∧ (Sorter.mk Parser.standard (.int 0)).order [] (.records threeWithA)
          (.written (.text "a")) [("a", some textOfId)] 5 = .ok [1, 0, 2] := by
  have mappings : GiveAnswers tyingAnswers
      (sortReadings true [2] soleA ([] : Extractors Unit) mappingsWithA ()) := by
    have readings : sortReadings true [2] soleA ([] : Extractors Unit) mappingsWithA ()
      = [⟨2, "a", .ok (.text "x")⟩, ⟨0, "a", .ok (.text "x")⟩, ⟨1, "a", .ok (.text "w")⟩] := rfl
    rw [readings]
    simp [GiveAnswers, tyingAnswers]
  have others : GiveAnswers tyingAnswers
      (sortReadings false [] soleA [("a", some textOfId)] threeWithA 5) := by
    have readings : sortReadings false [] soleA [("a", some textOfId)] threeWithA 5
      = [⟨0, "a", .ok (.text "x")⟩, ⟨1, "a", .ok (.text "w")⟩, ⟨2, "a", .ok (.text "x")⟩] := rfl
    rw [readings]
    simp [GiveAnswers, tyingAnswers]
  have hworkers := Sorter.isConcurrent_int Parser.standard 2
  have hserial := Sorter.isConcurrent_int Parser.standard 0
  obtain ⟨_, same, _⟩ := order_dependsOnAnswers (Sorter.mk Parser.standard (.int 2))
    (Sorter.mk Parser.standard (.int 0)) [2] [] (.records mappingsWithA) (.records threeWithA)
    (.parsed soleA) (.written (.text "a")) ([] : Extractors Unit) [("a", some textOfId)] () 5
    (e := soleA) rfl rfl rfl rfl rfl hworkers hserial
  have order := (same tyingAnswers mappings others).2.2 (.inr fun _ _ _ failed => nomatch failed)
  have serial : (Sorter.mk Parser.standard (.int 0)).order [] (.records threeWithA)
      (.written (.text "a")) [("a", some textOfId)] 5 = .ok [1, 0, 2] := by
    rw [order_eq (e := soleA) rfl rfl hserial]
    rfl
  exact ⟨mappings, others, order.trans serial, serial⟩

end OrderBy
