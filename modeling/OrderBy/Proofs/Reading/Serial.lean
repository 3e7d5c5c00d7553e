/-
  OrderBy.Proofs.Reading.Serial
  ─────────────────────────────
  **A SERIAL SORT READS FIRST, IN ORDER, AND EVERYTHING ONCE.**

  What a serial sort reads is known beforehand, whatever the extractors do:

      the expression is not read, or the records are not listed   →   nothing
      a reading fails                      →   the agenda up to that reading
      otherwise                            →   the agenda, each reading once

  The fault of the reading that fails is the fault of the sort.  Comparing begins
  behind the last reading, and only if none has failed.
-/
import OrderBy.Proofs.Reading.Agenda
import OrderBy.Proofs.Sorting.Simulation

namespace OrderBy

variable {σ α : Type}

/-! ## §1. Comparing reads nothing. -/

/-- The simulation that says that a computation has no event of a kind. -/
def BinaryInsertion.Simulation.without (kind : Event → Bool) : Simulation (Traced Event) Id where
  rel Q t _ := Without kind t.events ∧ ∀ b, t.outcome = .ok b → Q b
  rel_pure h := by
    refine ⟨List.forall_mem_nil _, fun b hb => ?_⟩
    obtain rfl := Except.ok.inj hb
    exact h
  rel_bind {_ _ _ _ t _ f _} h k := by
    obtain ⟨quiet, result⟩ := h
    cases ht : t.outcome with
    | error fault =>
        rw [Traced.bind_error ht]
        exact ⟨quiet, fun _ hb => nomatch hb⟩
    | ok b =>
        obtain ⟨quiet', result'⟩ := k b (result b ht)
        rw [Traced.bind_ok ht]
        exact ⟨quiet.append quiet', result'⟩
  rel_mono h k := ⟨h.1, fun b hb => k b (h.2 b hb)⟩

/-- A question about two decorated records is a comparison of their keys. -/
theorem before_events (ds : List Direction) (x y : Decorated) :
    (Decorated.before ds x y).events
      = .question x.position y.position
        :: (threeWayRows ds x.key y.key).events.map .comparison := by
  unfold Decorated.before keyBefore
  rw [Traced.bind_ok (Traced.outcome_emit _), Traced.events_mapEvents, Traced.events_map]
  rfl

/-- A comparison of two decorated records reads nothing. -/
theorem before_without (ds : List Direction) (x y : Decorated) :
    Without Event.isReading (Decorated.before ds x y).events := by
  rw [before_events]
  refine List.forall_mem_cons.mpr ⟨rfl, fun ev hev => ?_⟩
  obtain ⟨c, _, rfl⟩ := List.mem_map.mp hev
  rfl

/-- **Sorting decorated records reads nothing, loses no record and adds none.** -/
theorem sortDecorated_without_perm (ds : List Direction) (xs : List Decorated) :
    Without Event.isReading (sortDecorated ds xs).events
      ∧ ∀ out, (sortDecorated ds xs).outcome = .ok out → out.Perm xs := by
  have quiet : ∀ x y : Decorated, (BinaryInsertion.Simulation.without Event.isReading).Asks
      (Decorated.before ds) (fun _ _ => pure false) x y :=
    fun x y => ⟨before_without ds y x, fun _ _ => trivial⟩
  exact (BinaryInsertion.Simulation.without Event.isReading).sort (List.pairwise_of_forall quiet)

theorem sortAndLog_without (e : Expression) (decorated : List Decorated) (st : σ) :
    Without Event.isReading ((sortAndLog e decorated : Run σ Event _).events st) := by
  unfold sortAndLog
  rw [Run.events_bind]
  refine (sortDecorated_without_perm e.directions decorated).1.append ?_
  cases (Run.lift (sortDecorated e.directions decorated) : Run σ Event _).outcome st with
  | error fault => exact List.forall_mem_nil _
  | ok sorted => exact List.forall_mem_singleton.mpr rfl

/-- Log lines are neither readings nor comparisons. -/
theorem without_log {kind : Event → Bool} (h : ∀ entry, kind (.log entry) = false)
    (entries : List LogEntry) : Without kind (entries.map .log) := by
  intro ev hev
  obtain ⟨entry, _, rfl⟩ := List.mem_map.mp hev
  exact h entry

/-! ## §2. Courses of a sort. -/

/-- A run fails before anything was read or compared. -/
structure FailsUntouched (run : Run σ Event α) (st : σ) (fault : Fault) : Prop where
  outcome : run.outcome st = .error fault
  unread : Without Event.isReading (run.events st)
  uncompared : Without Event.isComparing (run.events st)

/-- A run fails when it has attempted some readings, before anything was compared. -/
structure FailsReading (run : Run σ Event α) (st : σ) (attempted : List (Nat × String))
    (fault : Fault) : Prop where
  outcome : run.outcome st = .error fault
  attempts : attempts (run.events st) = attempted
  uncompared : Without Event.isComparing (run.events st)

/-- A run attempts some readings, all of them before anything is compared. -/
structure ReadsFirst (run : Run σ Event α) (st : σ) (attempted : List (Nat × String)) : Prop where
  attempts : attempts (run.events st) = attempted
  phases : ∃ reads rest, run.events st = reads ++ rest
    ∧ Without Event.isComparing reads ∧ Without Event.isReading rest

/-! ## §3. The course of a serial sort. -/

variable {s : Sorter} {source : Source} {criterion : Criterion} {extractors : Extractors σ} {st : σ}
  {schedule : List Nat}

/-- A run that fails and has left log lines only has not touched anything. -/
theorem failsUntouched_of_logged {run : Run σ Event α} (entries : List LogEntry) {fault : Fault}
    (outcome : run.outcome st = .error fault) (events : run.events st = entries.map .log) :
    FailsUntouched run st fault where
  outcome := outcome
  unread := events ▸ without_log (fun _ => rfl) entries
  uncompared := events ▸ without_log (fun _ => rfl) entries

/-- An expression that is not read ends a sort, whatever the records are. -/
theorem sort_of_unread {fault : Fault} (h : (criterion.read s.parser).outcome = .error fault) :
    FailsUntouched (s.sort schedule source criterion extractors) st fault := by
  refine failsUntouched_of_logged (criterion.read s.parser).events ?_ ?_
  · unfold Sorter.sort
    rw [Run.outcome_map, Sorter.sortKeyed_eq, Run.outcome_bind_error (by exact h)]
    rfl
  · unfold Sorter.sort
    rw [Run.events_map, Sorter.sortKeyed_eq, Run.events_bind_error (by exact h)]
    rfl

/-- A sort that fails with its keys before anything happens has not touched anything. -/
theorem sort_of_sortByKeys {e : Expression} {fault : Fault}
    (hread : (criterion.read s.parser).outcome = .ok e)
    (outcome : (s.sortByKeys schedule source e.keys extractors).outcome st = .error fault)
    (events : (s.sortByKeys schedule source e.keys extractors).events st = []) :
    FailsUntouched (s.sort schedule source criterion extractors) st fault := by
  refine failsUntouched_of_logged (criterion.read s.parser).events ?_ ?_
  · unfold Sorter.sort
    rw [Run.outcome_map, Sorter.sortKeyed_eq, Run.outcome_bind_ok (by exact hread), Run.final_lift,
      outcome]
    rfl
  · unfold Sorter.sort
    rw [Run.events_map, Sorter.sortKeyed_eq, Run.events_bind_ok (by exact hread), Run.final_lift,
      events, List.append_nil]
    rfl

/-- Records that are not listed end a sort whose expression is read. -/
theorem sort_of_unlisted {e : Expression} {fault : Fault}
    (hread : (criterion.read s.parser).outcome = .ok e) (h : source.toList = .error fault) :
    FailsUntouched (s.sort schedule source criterion extractors) st fault := by
  apply sort_of_sortByKeys hread <;> unfold Sorter.sortByKeys <;> rw [h] <;> rfl

/-- Workers that cannot be counted end a sort whose records are listed. -/
theorem sort_of_uncounted {e : Expression} {records : List Record} {fault : Fault}
    (hread : (criterion.read s.parser).outcome = .ok e) (hsource : source.toList = .ok records)
    (h : s.isConcurrent = .error fault) :
    FailsUntouched (s.sort schedule source criterion extractors) st fault := by
  apply sort_of_sortByKeys hread <;> unfold Sorter.sortByKeys <;> rw [hsource, h] <;> rfl

section Listed

variable {e : Expression} {records : List Record}
  (hread : (criterion.read s.parser).outcome = .ok e) (hsource : source.toList = .ok records)
  (hserial : s.isConcurrent = .ok false)

include hread hsource hserial

variable (schedule extractors st) in
/-- The events of a serial sort: log lines, the readings on the agenda, and, if they all
succeed, what comparing the records leaves. -/
theorem sort_events_serial :
    ∃ rest, (s.sort schedule source criterion extractors).events st
        = (criterion.read s.parser).events.map .log
          ++ ((follow (agenda (Accessor.forFields extractors e.fields) 0 records)).events st ++ rest)
      ∧ Without Event.isReading rest
      ∧ ∀ fault, (follow (agenda (Accessor.forFields extractors e.fields) 0 records)).outcome st
          = .error fault →
        (s.sort schedule source criterion extractors).outcome st = .error fault ∧ rest = [] := by
  have serially : readRows false schedule (Accessor.forFields extractors e.fields) records
      = readSerially (Accessor.forFields extractors e.fields) 0 records := rfl
  unfold Sorter.sort
  rw [Run.events_map, Run.outcome_map,
    Sorter.sortKeyed_phases_events schedule extractors st hread hsource hserial,
    Sorter.sortKeyed_phases_outcome schedule extractors st hread hsource hserial, serially,
    ← readSerially_forget, Run.events_forget, Run.outcome_forget]
  -- comparing leaves the rest of the events if all readings succeed, else there is none
  cases hreads : (readSerially (Accessor.forFields extractors e.fields) 0 records).outcome st with
  | ok rows =>
      refine ⟨_, congrArg _ (Run.events_bind_ok hreads _), sortAndLog_without e _ _, ?_⟩
      exact fun fault h => nomatch h
  | error fault =>
      have ends := Run.events_bind_error hreads fun rows =>
        sortAndLog e (decorateFrom e.fields 0 records rows)
      refine ⟨[], congrArg _ (ends.trans (List.append_nil _).symm), List.forall_mem_nil _, ?_⟩
      intro fault' h
      obtain rfl := Except.error.inj h
      exact ⟨congrArg _ (Run.outcome_bind_error hreads _), rfl⟩

/-- A reading that fails ends a serial sort with its fault. -/
theorem failsReading_of_stopsAt {done : List (DueReading σ)} {d : DueReading σ} {fault : Fault}
    (h : StopsAt (agenda (Accessor.forFields extractors e.fields) 0 records) st done d fault) :
    FailsReading (s.sort schedule source criterion extractors) st
      ((done ++ [d]).map DueReading.place) fault := by
  obtain ⟨failed, attempted⟩ := follow_of_stopsAt h
  obtain ⟨rest, events, -, ends⟩ := sort_events_serial extractors st schedule
    hread hsource hserial
  obtain ⟨outcome, rfl⟩ := ends fault failed
  rw [List.append_nil] at events
  refine ⟨outcome, ?_, ?_⟩
  · rw [events, attempts_append, (without_log (fun _ => rfl) _).attempts_eq_nil, attempted,
      List.nil_append]
  · rw [events]
    exact (without_log (fun _ => rfl) _).append (follow_without _ _)

/-- A serial sort in which no reading fails reads everything first. -/
theorem readsFirst_of_followed
    (h : (follow (agenda (Accessor.forFields extractors e.fields) 0 records)).outcome st = .ok ()) :
    ReadsFirst (s.sort schedule source criterion extractors) st
      (places (List.range records.length) e.fields.eraseDups) := by
  obtain ⟨rest, events, unread, -⟩ := sort_events_serial extractors st schedule
    hread hsource hserial
  refine ⟨?_, _, rest, by rw [events, List.append_assoc], ?_, unread⟩
  · rw [events, attempts_append, attempts_append, (without_log (fun _ => rfl) _).attempts_eq_nil,
      attempts_follow h, unread.attempts_eq_nil, map_place_agenda, map_fst_forFields,
      List.append_nil, List.nil_append, ← List.range_eq_range']
  · exact (without_log (fun _ => rfl) _).append (follow_without _ _)

end Listed

/-- **What a serial sort reads, and when.**  Nothing, if the expression is not read,
whatever the records are, or if the records are not listed.  Otherwise the readings that
are due are those of the distinct fields, record after record: up to the first one that
fails, whose fault is that of the sort, or else every one of them once and before anything
is compared. -/
theorem sort_readsInOrder (s : Sorter) (schedule : List Nat) (source : Source)
    (criterion : Criterion) (extractors : Extractors σ) (st : σ)
    (hserial : s.isConcurrent = .ok false) :
    (∀ fault, (criterion.read s.parser).outcome = .error fault →
        FailsUntouched (s.sort schedule source criterion extractors) st fault)
      ∧ ∀ e, (criterion.read s.parser).outcome = .ok e →
        (∀ fault, source.toList = .error fault →
            FailsUntouched (s.sort schedule source criterion extractors) st fault)
        ∧ ∀ records, source.toList = .ok records →
          ∃ due all, due = agenda (Accessor.forFields extractors e.fields) 0 records
            ∧ all = places (List.range records.length) e.fields.eraseDups
            ∧ due.map DueReading.place = all
            ∧ all.Nodup
            ∧ (∀ done d fault, StopsAt due st done d fault →
                FailsReading (s.sort schedule source criterion extractors) st
                  ((done ++ [d]).map DueReading.place) fault)
            ∧ ((∀ done d fault, ¬ StopsAt due st done d fault) →
                ReadsFirst (s.sort schedule source criterion extractors) st all)
            ∧ ((∃ out, (s.sort schedule source criterion extractors).outcome st = .ok out)
                  ∨ (∃ ev ∈ (s.sort schedule source criterion extractors).events st,
                      ev.isComparing = true) →
                ReadsFirst (s.sort schedule source criterion extractors) st all) := by
  refine ⟨fun fault h => sort_of_unread h, fun e hread => ⟨fun fault h => sort_of_unlisted hread h,
    fun records hsource => ⟨_, _, rfl, rfl, ?_, ?_, ?_, ?_, ?_⟩⟩⟩
  · rw [map_place_agenda, map_fst_forFields, ← List.range_eq_range']
  · exact nodup_places List.nodup_range (nodup_eraseDups _)
  · exact fun done d fault h => failsReading_of_stopsAt hread hsource hserial h
  · intro unfailing
    rcases followed_or_stopsAt (agenda (Accessor.forFields extractors e.fields) 0 records) st with
      followed | ⟨done, d, fault, stops⟩
    · exact readsFirst_of_followed hread hsource hserial followed
    · exact absurd stops (unfailing done d fault)
  · intro progress
    rcases followed_or_stopsAt (agenda (Accessor.forFields extractors e.fields) 0 records) st with
      followed | ⟨done, d, fault, stops⟩
    · exact readsFirst_of_followed hread hsource hserial followed
    · -- the sort would neither return nor compare after the fault of a reading
      have failed : FailsReading (s.sort schedule source criterion extractors) st _ fault :=
        failsReading_of_stopsAt hread hsource hserial stops
      rcases progress with ⟨out, returned⟩ | ⟨ev, hev, comparing⟩
      · rw [failed.outcome] at returned
        cases returned
      · rw [failed.uncompared ev hev] at comparing
        cases comparing

/-- An extractor that counts its calls and fails on the second one. -/
def failsOnSecondCall : Reading Nat := fun r calls =>
  (⟨[], if calls = 1 then .error (.missingKey (.int r.id)) else .ok (.int calls)⟩, calls + 1)

/-- Three records with an attribute `a`. -/
def threeWithA : List Record := (List.range 3).map (fun n => ⟨n, .object [("a", .int n)]⟩)

theorem isFieldName_a : isFieldName "a" = true := rfl

theorem isFieldName_b : isFieldName "b" = true := rfl

/-- The key `b`, then the key `a`, then the key `b` again. -/
def repeatedB : Expression where
  text := "b, a, b DESC"
  keys := [⟨"b", .ascending, isFieldName_b⟩, ⟨"a", .ascending, isFieldName_a⟩,
    ⟨"b", .descending, isFieldName_b⟩]
  keys_ne_nil := List.cons_ne_nil _ _

/-- One worker, a field that is named twice, and an extractor that fails on the second
record: three readings are attempted and nothing is compared. -/
theorem sort_readsInOrder_failing :
    (Sorter.mk Parser.standard (.int 1)).isConcurrent = .ok false
      ∧ FailsReading ((Sorter.mk Parser.standard (.int 1)).sort [] (.records threeWithA)
          (.parsed repeatedB) [("b", some failsOnSecondCall)]) 0
          [(0, "b"), (0, "a"), (1, "b")] (.missingKey (.int 1)) := by
  have serial : (Sorter.mk Parser.standard (.int 1)).isConcurrent = .ok false :=
    Sorter.isConcurrent_int _ 1
  refine ⟨serial, ?_⟩
  have course := sort_readsInOrder (Sorter.mk Parser.standard (.int 1)) [] (.records threeWithA)
    (.parsed repeatedB) [("b", some failsOnSecondCall)] 0 serial
  obtain ⟨_, _, rfl, _, _, _, failing, _⟩ := (course.2 repeatedB rfl).2 threeWithA rfl
  exact failing [⟨0, _, "b", _⟩, ⟨0, _, "a", _⟩] ⟨1, _, "b", _⟩ _ ⟨⟨_, rfl⟩, rfl, rfl⟩

end OrderBy
