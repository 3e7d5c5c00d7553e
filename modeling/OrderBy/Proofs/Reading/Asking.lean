/-
  OrderBy.Proofs.Reading.Asking
  ─────────────────────────────
  **THE DIALOGUE OF A DECORATION, SERIAL OR CONCURRENT.**

  A decoration asks for its places in one of two ways:

      serial       position after position, field after field
      concurrent   one task per position; a schedule says whose place is next, and
                   what is left of each task is asked for in the end

  Which places these are depends on the number of records, the distinct fields and
  the outcomes.  Records and extractors come in only when the dialogue is run, and
  then it does what the decoration does.
-/
import OrderBy.Proofs.Reading.Dialogue

namespace OrderBy

variable {σ : Type}

/-! ## §1. Asking record after record. -/

/-- Ask for some fields at a position, in order. -/
def askFields (position : Nat) : List String → Dialogue FieldValues
  | [] => pure []
  | f :: fields => do
    let v ← Dialogue.reading position f
    let vs ← askFields position fields
    pure ((f, v) :: vs)

/-- Ask for some fields at one position after the other. -/
def askSerially (fields : List String) : List Nat → Dialogue (List FieldValues)
  | [] => pure []
  | i :: positions => do
    let vs ← askFields i fields
    let rest ← askSerially fields positions
    pure (vs :: rest)

/-! ## §2. Asking concurrently. -/

/-- How far a task is: what it has read, and which fields it still has to read. -/
inductive Progress where
  | reading (values : FieldValues) (pending : List String)
  | failed (fault : Fault)

namespace Progress

/-- The progress after the reading of a field, which had an outcome. -/
def after (values : FieldValues) (f : String) (pending : List String) :
    Except Fault Value → Progress
  | .ok v => reading (values ++ [(f, v)]) pending
  | .error fault => failed fault

/-- Ask for the next field of a task. -/
def askNext (position : Nat) : Progress → Dialogue Progress
  | reading values (f :: pending) => .ask position f (fun v => pure (after values f pending v))
  | p => pure p

/-- Ask for the fields that a task still has to read. -/
def askRest (position : Nat) : Progress → Dialogue FieldValues
  | reading values pending => do
    let rest ← askFields position pending
    pure (values ++ rest)
  | failed fault => .done (.error fault)

/-- Ask for what a schedule says. -/
def askScheduled : List Nat → List Progress → Dialogue (List Progress)
  | [], tasks => pure tasks
  | i :: schedule, tasks =>
    match tasks[i]? with
    | some p => do
      let next ← p.askNext i
      askScheduled schedule (tasks.set i next)
    | none => askScheduled schedule tasks

/-- Ask for what all tasks still have to read; the first fault ends the dialogue. -/
def askAll : List (Nat × Progress) → Dialogue (List FieldValues)
  | [] => pure []
  | (i, p) :: work => do
    let vs ← p.askRest i
    let rest ← askAll work
    pure (vs :: rest)

end Progress

/-- Ask for some fields of so many records concurrently under a schedule.  The results are
delivered by a generator. -/
def askConcurrently (schedule : List Nat) (fields : List String) (n : Nat) :
    Dialogue (List FieldValues) := do
  let tasks ← Progress.askScheduled schedule (List.replicate n (.reading [] fields))
  (Progress.askAll ((List.range n).zip tasks)).mapFault .delivered

/-- The dialogue of a decoration of so many records. -/
def askRows (concurrent : Bool) (schedule : List Nat) (fields : List String) (n : Nat) :
    Dialogue (List FieldValues) :=
  if concurrent && 1 < n then askConcurrently schedule fields n
  else askSerially fields (List.range n)

/-! ## §3. The run of the dialogue is the decoration. -/

/-- Some fields with their accessors. -/
def accessorsOf (extractors : Extractors σ) (fields : List String) : List (String × Accessor σ) :=
  fields.map (fun f => (f, Accessor.forField extractors f))

variable {extractors : Extractors σ} {records : List Record}

theorem run_askFields {position : Nat} {r : Record} (h : records[position]? = some r) :
    ∀ fields : List String, (askFields position fields).run extractors records
      = readFields position r (accessorsOf extractors fields)
  | [] => rfl
  | f :: fields => by
      show (Dialogue.reading position f >>= _).run extractors records
        = readOne position r f (Accessor.forField extractors f) >>= _
      rw [Dialogue.run_bind, Dialogue.run_reading, takeAt_of_getElem? h]
      refine bind_congr (fun v => ?_)
      rw [Dialogue.run_bind, run_askFields h fields]
      rfl

/-- Some records stand in the list of records from a position on. -/
def StandAt (records : List Record) (position : Nat) (rs : List Record) : Prop :=
  ∀ i r, rs[i]? = some r → records[position + i]? = some r

theorem StandAt.head {position : Nat} {r : Record} {rs : List Record}
    (h : StandAt records position (r :: rs)) : records[position]? = some r := h 0 r rfl

theorem StandAt.tail {position : Nat} {r : Record} {rs : List Record}
    (h : StandAt records position (r :: rs)) : StandAt records (position + 1) rs := by
  intro i r' hi
  rw [Nat.add_assoc, Nat.add_comm 1 i]
  exact h (i + 1) r' hi

theorem StandAt.self (records : List Record) : StandAt records 0 records := by
  intro i r hi
  rw [Nat.zero_add]
  exact hi

theorem run_askSerially (fields : List String) :
    ∀ {position : Nat} {rs : List Record}, StandAt records position rs →
      (askSerially fields (List.range' position rs.length)).run extractors records
        = readSerially (accessorsOf extractors fields) position rs
  | _, [], _ => rfl
  | position, r :: rs, h => by
      rw [List.length_cons, List.range'_succ]
      unfold askSerially readSerially
      rw [Dialogue.run_bind, run_askFields h.head]
      refine bind_congr (fun vs => ?_)
      rw [Dialogue.run_bind, run_askSerially fields h.tail]
      rfl

namespace Progress

/-- The task that is so far. -/
def task (extractors : Extractors σ) : Progress → Task σ
  | reading values pending => .reading values (accessorsOf extractors pending)
  | failed fault => .failed fault

theorem run_askNext {position : Nat} {r : Record} (h : records[position]? = some r) :
    ∀ p : Progress, task extractors <$> (p.askNext position).run extractors records
      = (p.task extractors).advance position r
  | failed _ => rfl
  | reading _ [] => rfl
  | reading values (f :: pending) => by
      show task extractors <$> ((takeAt extractors records position f).attempt >>= _)
        = (readOne position r f (Accessor.forField extractors f)).attempt >>= _
      rw [takeAt_of_getElem? h, map_bind]
      refine bind_congr (fun v => ?_)
      cases v <;> rfl

theorem run_askRest {position : Nat} {r : Record} (h : records[position]? = some r) :
    ∀ p : Progress,
      (p.askRest position).run extractors records = (p.task extractors).finish position r
  | failed _ => rfl
  | reading values pending => by
      unfold askRest
      rw [Dialogue.run_bind, run_askFields h]
      rfl

theorem run_askScheduled :
    ∀ (schedule : List Nat) {tasks : List Progress}, tasks.length = records.length →
      List.map (task extractors) <$> (askScheduled schedule tasks).run extractors records
        = Task.interleave records schedule (tasks.map (task extractors))
  | [], _, _ => rfl
  | i :: schedule, tasks, size => by
      unfold askScheduled Task.interleave
      rw [List.getElem?_map]
      cases hp : tasks[i]? with
      | none =>
          have outside : records[i]? = none := by
            rw [List.getElem?_eq_none_iff] at hp ⊢
            omega
          rw [outside]
          exact run_askScheduled schedule size
      | some p =>
          have inside : i < records.length := size ▸ (List.getElem?_eq_some_iff.mp hp).1
          have hr : records[i]? = some records[i] := List.getElem?_eq_getElem inside
          rw [hr]
          -- the step is the same on both sides, and so is what follows it
          show List.map (task extractors) <$> (p.askNext i >>= _).run extractors records
            = (p.task extractors).advance i records[i] >>= _
          rw [Dialogue.run_bind, map_bind, ← run_askNext hr, bind_map_left]
          refine bind_congr (fun next => ?_)
          rw [run_askScheduled schedule (by rw [List.length_set, size]), List.map_set]

theorem run_askAll :
    ∀ {position : Nat} {rs : List Record} (tasks : List Progress), StandAt records position rs →
      (askAll ((List.range' position rs.length).zip tasks)).run extractors records
        = Task.collect position (rs.zip (tasks.map (task extractors)))
  | _, [], _, _ => rfl
  | _, _ :: _, [], _ => rfl
  | position, r :: rs, p :: tasks, h => by
      rw [List.length_cons, List.range'_succ, List.map_cons, List.zip_cons_cons,
        List.zip_cons_cons, askAll, Task.collect, Dialogue.run_bind, run_askRest h.head]
      refine bind_congr (fun vs => ?_)
      rw [Dialogue.run_bind, run_askAll tasks h.tail]
      rfl

end Progress

/-- **Running the dialogue is decorating.** -/
theorem run_askRows (concurrent : Bool) (schedule : List Nat) (fields : List String) :
    (askRows concurrent schedule fields records.length).run extractors records
      = readRows concurrent schedule (accessorsOf extractors fields) records := by
  unfold askRows readRows
  rw [List.range_eq_range']
  split
  · unfold askConcurrently readConcurrently
    have fresh : records.map (fun _ => Task.reading [] (accessorsOf extractors fields))
        = (List.replicate records.length (.reading [] fields)).map
            (Progress.task extractors) := by
      rw [List.map_const', List.map_replicate]
      rfl
    rw [Dialogue.run_bind, fresh, ← Progress.run_askScheduled schedule List.length_replicate,
      bind_map_left, List.range_eq_range']
    refine bind_congr (fun tasks => ?_)
    rw [Dialogue.run_mapFault, Progress.run_askAll tasks (StandAt.self records)]
  · exact run_askSerially fields (StandAt.self records)

/-! ## §4. What asking position after position spends. -/

open Dialogue (Spends)

theorem spends_askFields {position : Nat} :
    ∀ {fields : List String} {budget rest : List (Nat × String)},
      budget.Perm (fields.map (fun f => (position, f)) ++ rest) →
      Spends (fun _ left => left.Perm rest) (askFields position fields) budget
  | [], _, _, h => h
  | _ :: _, _, _, h => by
      refine (Spends.reading h).bind fun _ _ h' => (spends_askFields h').bind fun _ _ h'' => ?_
      exact Spends.pure h''

theorem spends_askSerially {fields : List String} :
    ∀ {positions : List Nat} {budget rest : List (Nat × String)},
      budget.Perm (places positions fields ++ rest) →
      Spends (fun _ left => left.Perm rest) (askSerially fields positions) budget
  | [], _, _, h => h
  | i :: positions, budget, rest, h => by
      have parts : budget.Perm
          (fields.map (fun f => (i, f)) ++ (places positions fields ++ rest)) := by
        rw [← List.append_assoc]
        exact h
      refine (spends_askFields parts).bind fun _ _ h' =>
        (spends_askSerially h').bind fun _ _ h'' => ?_
      exact Spends.pure h''

/-! ## §5. What tasks owe, and spend. -/

namespace Progress

/-- Whether a reading of the task has failed. -/
def hasFailed : Progress → Bool
  | reading _ _ => false
  | failed _ => true

/-- The readings that a task still has to take.  One that has failed takes no more. -/
def owed (position : Nat) : Progress → List (Nat × String)
  | reading _ pending => pending.map (fun f => (position, f))
  | failed _ => []

/-- The readings that some tasks still have to take, the first of them at a position. -/
def owedAll : Nat → List Progress → List (Nat × String)
  | _, [] => []
  | position, p :: tasks => p.owed position ++ owedAll (position + 1) tasks

/-- A step spends a reading that is owed.  Only a task that fails leaves readings that
nobody will take. -/
theorem spends_askNext {position : Nat} {budget rest : List (Nat × String)} :
    ∀ {p : Progress}, budget.Perm (p.owed position ++ rest) →
      Spends (fun next left => (p.hasFailed = true → next.hasFailed = true)
          ∧ ∃ dropped, left.Perm (next.owed position ++ (dropped ++ rest))
            ∧ (next.hasFailed = false → dropped = []))
        (p.askNext position) budget
  | failed _, h => ⟨fun _ => rfl, [], h, fun _ => rfl⟩
  | reading _ [], h => ⟨fun h => h, [], h, fun _ => rfl⟩
  | reading values (f :: pending), h => by
      refine ⟨_, h, fun v => ?_⟩
      cases v with
      | ok v => exact ⟨(nomatch ·), [], List.Perm.refl _, fun _ => rfl⟩
      | error fault => exact ⟨fun _ => rfl, _, List.Perm.refl _, (nomatch ·)⟩

/-- What is left of a task is what it owes, and it has not failed if there is a result. -/
theorem spends_askRest {position : Nat} {budget rest : List (Nat × String)} :
    ∀ {p : Progress}, budget.Perm (p.owed position ++ rest) →
      Spends (fun _ left => left.Perm rest ∧ p.hasFailed = false) (p.askRest position) budget
  | failed _, _ => trivial
  | reading _ _, h => (spends_askFields h).bind fun _ _ h' => Spends.pure ⟨h', rfl⟩

/-- What one task owes and what all others do. -/
theorem owedAll_set {p : Progress} :
    ∀ {tasks : List Progress} {i : Nat} (position : Nat), tasks[i]? = some p →
      ∃ others, (owedAll position tasks).Perm (p.owed (position + i) ++ others)
        ∧ ∀ next : Progress,
          (owedAll position (tasks.set i next)).Perm (next.owed (position + i) ++ others)
  | [], _, _, hi => nomatch hi
  | q :: tasks, 0, position, hi => by
      obtain rfl := Option.some.inj hi
      exact ⟨owedAll (position + 1) tasks, List.Perm.refl _, fun _ => List.Perm.refl _⟩
  | q :: tasks, i + 1, position, hi => by
      obtain ⟨others, before, after⟩ := owedAll_set (i := i) (position + 1) hi
      rw [Nat.add_assoc, Nat.add_comm 1 i] at before after
      refine ⟨q.owed position ++ others, ?_, fun next => ?_⟩
      · exact (before.append_left _).trans (List.perm_append_comm_assoc _ _ _)
      · exact ((after next).append_left _).trans (List.perm_append_comm_assoc _ _ _)

/-- A task that has failed is still among the tasks when another one has been set. -/
theorem exists_hasFailed_set {tasks : List Progress} {i : Nat} {p next : Progress}
    (hp : tasks[i]? = some p) (hnext : p.hasFailed = true → next.hasFailed = true)
    (h : ∃ q ∈ tasks, q.hasFailed = true) : ∃ q ∈ tasks.set i next, q.hasFailed = true := by
  obtain ⟨q, hq, failed⟩ := h
  obtain ⟨j, hj⟩ := List.getElem?_of_mem hq
  by_cases hij : i = j
  · subst hij
    obtain rfl := Option.some.inj (hp.symm.trans hj)
    exact ⟨next, List.mem_set (List.getElem?_eq_some_iff.mp hp).1 next, hnext failed⟩
  · exact ⟨q, List.mem_of_getElem? ((List.getElem?_set_ne hij).trans hj), failed⟩

/-- **A schedule spends what is owed.**  Nothing is dropped unless a task fails. -/
theorem spends_askScheduled :
    ∀ (schedule : List Nat) {tasks : List Progress} {budget dropped : List (Nat × String)},
      budget.Perm (owedAll 0 tasks ++ dropped) →
      (dropped = [] ∨ ∃ p ∈ tasks, p.hasFailed = true) →
      Spends (fun after left => after.length = tasks.length
          ∧ ∃ dropped, left.Perm (owedAll 0 after ++ dropped)
            ∧ (dropped = [] ∨ ∃ p ∈ after, p.hasFailed = true))
        (askScheduled schedule tasks) budget
  | [], _, _, dropped, h, hdropped => ⟨rfl, dropped, h, hdropped⟩
  | i :: schedule, tasks, budget, dropped, h, hdropped => by
      unfold askScheduled
      cases hp : tasks[i]? with
      | none => exact spends_askScheduled schedule h hdropped
      | some p =>
          obtain ⟨others, before, after⟩ := owedAll_set 0 hp
          rw [Nat.zero_add] at before after
          have due : budget.Perm (p.owed i ++ (others ++ dropped)) := by
            rw [← List.append_assoc]
            exact h.trans (before.append_right dropped)
          refine (spends_askNext due).bind fun next left post => ?_
          obtain ⟨stays, more, perm, none⟩ := post
          -- what the step drops is added to what was dropped before
          have due' : left.Perm (owedAll 0 (tasks.set i next) ++ (more ++ dropped)) := by
            refine perm.trans (List.Perm.trans ?_ ((after next).symm.append_right (more ++ dropped)))
            rw [List.append_assoc]
            exact (List.perm_append_comm_assoc _ _ _).append_left _
          have accounted : more ++ dropped = [] ∨ ∃ q ∈ tasks.set i next, q.hasFailed = true := by
            cases hfailed : next.hasFailed with
            | true =>
                exact .inr ⟨next, List.mem_set (List.getElem?_eq_some_iff.mp hp).1 next, hfailed⟩
            | false =>
                rw [none hfailed]
                exact hdropped.imp_right (exists_hasFailed_set hp stays)
          have rest := spends_askScheduled schedule due' accounted
          rwa [List.length_set] at rest

/-- The results of tasks spend all that is owed, and there are none if a task has failed. -/
theorem spends_askAll :
    ∀ {position : Nat} {tasks : List Progress} {budget rest : List (Nat × String)},
      budget.Perm (owedAll position tasks ++ rest) →
      Spends (fun _ left => left.Perm rest ∧ ∀ p ∈ tasks, p.hasFailed = false)
        (askAll ((List.range' position tasks.length).zip tasks)) budget
  | _, [], _, _, h => ⟨h, List.forall_mem_nil _⟩
  | position, p :: tasks, budget, rest, h => by
      have due : budget.Perm (p.owed position ++ (owedAll (position + 1) tasks ++ rest)) := by
        rw [← List.append_assoc]
        exact h
      rw [List.length_cons, List.range'_succ, List.zip_cons_cons, askAll]
      refine (spends_askRest due).bind fun _ _ h' => (spends_askAll h'.1).bind fun _ _ h'' => ?_
      exact Spends.pure ⟨h''.1, List.forall_mem_cons.mpr ⟨h'.2, h''.2⟩⟩

/-- Tasks that have read nothing owe everything. -/
theorem owedAll_fresh (fields : List String) :
    ∀ (position n : Nat),
      owedAll position (List.replicate n (reading [] fields)) = places (List.range' position n) fields
  | _, 0 => rfl
  | position, n + 1 => by
      rw [List.replicate_succ, List.range'_succ, owedAll, owedAll_fresh fields (position + 1) n]
      rfl

end Progress

/-- **Every decoration may take each reading once, and has taken all of them if it has a
result.** -/
theorem spends_askRows (concurrent : Bool) (schedule : List Nat) (fields : List String) (n : Nat) :
    Spends (fun _ left => left = []) (askRows concurrent schedule fields n)
      (places (List.range n) fields) := by
  unfold askRows
  split
  · have due : (places (List.range n) fields).Perm
        (Progress.owedAll 0 (List.replicate n (.reading [] fields)) ++ []) := by
      rw [Progress.owedAll_fresh, List.append_nil, List.range_eq_range']
    refine (Progress.spends_askScheduled schedule due (.inl rfl)).bind fun tasks left post => ?_
    obtain ⟨length, dropped, owed, accounted⟩ := post
    rw [List.length_replicate] at length
    rw [← length, List.range_eq_range']
    refine ((Progress.spends_askAll owed).mapFault .delivered).mono fun vss rest h => ?_
    -- a task would have failed if something had been dropped
    obtain ⟨perm, unfailed⟩ := h
    rcases accounted with rfl | ⟨p, hp, failed⟩
    · exact perm.eq_nil
    · rw [unfailed p hp] at failed
      cases failed
  · have due : (places (List.range n) fields).Perm (places (List.range n) fields ++ []) := by
      rw [List.append_nil]
    exact (spends_askSerially due).mono fun _ _ h => h.eq_nil

end OrderBy
