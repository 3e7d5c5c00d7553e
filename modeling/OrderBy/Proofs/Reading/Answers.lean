/-
  OrderBy.Proofs.Reading.Answers
  ──────────────────────────────
  **WHAT A DECORATION GIVES IS KNOWN FROM THE ANSWERS, WHATEVER THE SCHEDULE.**

  Given an answer for each position and field, the rows of a decoration are those that
  asking position after position gives, and so is its fault:

      rows [0, 1, …]  =  row 0 and then row 1 and then …,  up to the first fault

  Concurrent tasks get there in any order.  At every moment a task *promises* a row,
  from what it has read and from the answers to what it has still to read, and no step
  of any task changes a promise.  So the collected rows are the ones that were promised
  at the start.

  The rows of a pool are delivered by a generator.  That changes one fault and nothing
  else: the end of an iteration, which a generator does not let through.
-/
import OrderBy.Proofs.Reading.Asking

namespace OrderBy

/-! ## §1. Rows of answers. -/

section Rows

variable (answer : Nat → String → Except Fault Value)

/-- The row of a position: the answers for some fields, up to the first fault. -/
def answeredRow (position : Nat) (fields : List String) : Except Fault FieldValues :=
  (askFields position fields).answered answer

/-- The rows of some positions, up to the first fault. -/
def answeredRows (fields : List String) (positions : List Nat) : Except Fault (List FieldValues) :=
  (askSerially fields positions).answered answer

theorem answeredRow_cons (position : Nat) (f : String) (fields : List String) :
    answeredRow answer position (f :: fields)
      = answer position f >>= fun v =>
          answeredRow answer position fields >>= fun vs => pure ((f, v) :: vs) := by
  rw [answeredRow, askFields, Dialogue.answered_bind]
  exact bind_congr (fun v => Dialogue.answered_bind answer _ _)

theorem answeredRows_cons (fields : List String) (i : Nat) (positions : List Nat) :
    answeredRows answer fields (i :: positions)
      = answeredRow answer i fields >>= fun vs =>
          answeredRows answer fields positions >>= fun rest => pure (vs :: rest) := by
  rw [answeredRows, askSerially, Dialogue.answered_bind]
  exact bind_congr (fun vs => Dialogue.answered_bind answer _ _)

end Rows

variable {answer : Nat → String → Except Fault Value}

/-- Where every field has an answer there is a row. -/
theorem answeredRow_ok {position : Nat} :
    ∀ {fields : List String}, (∀ g ∈ fields, ∃ v, answer position g = .ok v) →
      ∃ row, answeredRow answer position fields = .ok row
  | [], _ => ⟨[], rfl⟩
  | g :: fields, h => by
      obtain ⟨⟨v, hv⟩, h⟩ := List.forall_mem_cons.mp h
      obtain ⟨row, hrow⟩ := answeredRow_ok h
      refine ⟨(g, v) :: row, ?_⟩
      rw [answeredRow_cons, hv, hrow]
      rfl

/-- A row stops at its first fault. -/
theorem answeredRow_error {position : Nat} {f : String} {fault : Fault}
    (hf : answer position f = .error fault) (others : List String) :
    ∀ {fields : List String}, (∀ g ∈ fields, ∃ v, answer position g = .ok v) →
      answeredRow answer position (fields ++ f :: others) = .error fault
  | [], _ => by
      rw [List.nil_append, answeredRow_cons, hf]
      rfl
  | g :: fields, h => by
      obtain ⟨⟨v, hv⟩, h⟩ := List.forall_mem_cons.mp h
      rw [List.cons_append, answeredRow_cons, hv, answeredRow_error hf others h]
      rfl

/-- The fault of a row is that of an answer. -/
theorem exists_answer_of_answeredRow {position : Nat} {fault : Fault} :
    ∀ {fields : List String}, answeredRow answer position fields = .error fault →
      ∃ f ∈ fields, answer position f = .error fault
  | [], h => nomatch h
  | f :: fields, h => by
      rw [answeredRow_cons] at h
      rcases bind_eq_error.mp h with hf | ⟨_, _, h⟩
      · exact ⟨f, List.mem_cons_self, hf⟩
      · rcases bind_eq_error.mp h with hrow | ⟨_, _, h⟩
        · obtain ⟨g, hg, answered⟩ := exists_answer_of_answeredRow hrow
          exact ⟨g, List.mem_cons_of_mem _ hg, answered⟩
        · cases h

/-- **The fault of some rows is that of an answer.** -/
theorem exists_answer_of_answeredRows {fault : Fault} {fields : List String} :
    ∀ {positions : List Nat}, answeredRows answer fields positions = .error fault →
      ∃ i ∈ positions, ∃ f ∈ fields, answer i f = .error fault
  | [], h => nomatch h
  | i :: positions, h => by
      rw [answeredRows_cons] at h
      rcases bind_eq_error.mp h with hi | ⟨_, _, h⟩
      · exact ⟨i, List.mem_cons_self, exists_answer_of_answeredRow hi⟩
      · rcases bind_eq_error.mp h with hrows | ⟨_, _, h⟩
        · obtain ⟨j, hj, answered⟩ := exists_answer_of_answeredRows hrows
          exact ⟨j, List.mem_cons_of_mem _ hj, answered⟩
        · cases h

/-- **Rows stop at the first fault of the first position that has one.** -/
theorem answeredRows_error {i : Nat} {f : String} {fault : Fault} {fields others : List String}
    (hf : answer i f = .error fault) (hfields : ∀ g ∈ fields, ∃ v, answer i g = .ok v)
    (later : List Nat) :
    ∀ {positions : List Nat},
      (∀ j ∈ positions, ∀ g ∈ fields ++ f :: others, ∃ v, answer j g = .ok v) →
      answeredRows answer (fields ++ f :: others) (positions ++ i :: later) = .error fault
  | [], _ => by
      rw [List.nil_append, answeredRows_cons, answeredRow_error hf others hfields]
      rfl
  | j :: positions, h => by
      obtain ⟨here, h⟩ := List.forall_mem_cons.mp h
      obtain ⟨row, hrow⟩ := answeredRow_ok here
      rw [List.cons_append, answeredRows_cons, hrow, answeredRows_error hf hfields later h]
      rfl

/-! ## §2. What tasks promise. -/

namespace Progress

variable (answer) in
/-- The row that a task will have. -/
def promised (position : Nat) : Progress → Except Fault FieldValues
  | reading values pending => (fun vs => values ++ vs) <$> answeredRow answer position pending
  | failed fault => .error fault

theorem promised_reading (position : Nat) (values : FieldValues) (pending : List String) :
    (reading values pending).promised answer position
      = (fun vs => values ++ vs) <$> answeredRow answer position pending := rfl

variable (answer) in
/-- Every task promises the row of its position, the first of them at a position. -/
def Promising (fields : List String) (position : Nat) (tasks : List Progress) : Prop :=
  ∀ i p, tasks[i]? = some p →
    p.promised answer (position + i) = answeredRow answer (position + i) fields

variable (answer) in
/-- **A step keeps the promise of its task.** -/
theorem answered_askNext (position : Nat) (p : Progress) :
    ∃ next, (p.askNext position).answered answer = .ok next
      ∧ next.promised answer position = p.promised answer position := by
  match p with
  | failed fault => exact ⟨failed fault, rfl, rfl⟩
  | reading values [] => exact ⟨reading values [], rfl, rfl⟩
  | reading values (f :: pending) =>
      refine ⟨after values f pending (answer position f), rfl, ?_⟩
      rw [promised_reading, answeredRow_cons]
      cases answer position f with
      | error fault => rfl
      | ok v =>
          show (reading (values ++ [(f, v)]) pending).promised answer position = _
          rw [promised_reading]
          cases answeredRow answer position pending with
          | error fault => rfl
          | ok vs => exact congrArg Except.ok (List.append_assoc values [(f, v)] vs)

/-- The readings that are left give what was promised. -/
theorem answered_askRest (position : Nat) :
    ∀ p : Progress, (p.askRest position).answered answer = p.promised answer position
  | failed _ => rfl
  | reading values pending => by
      unfold askRest
      rw [Dialogue.answered_bind, promised_reading, ← bind_pure_comp]
      rfl

/-- **A schedule keeps all promises.** -/
theorem answered_askScheduled {fields : List String} :
    ∀ (schedule : List Nat) {tasks : List Progress}, Promising answer fields 0 tasks →
      ∃ after, (askScheduled schedule tasks).answered answer = .ok after
        ∧ after.length = tasks.length ∧ Promising answer fields 0 after
  | [], tasks, promising => ⟨tasks, rfl, rfl, promising⟩
  | i :: schedule, tasks, promising => by
      unfold askScheduled
      cases hp : tasks[i]? with
      | none => exact answered_askScheduled schedule promising
      | some p =>
          obtain ⟨next, step, kept⟩ := answered_askNext answer (0 + i) p
          -- only the task that is advanced changes, and it keeps its promise
          have promising' : Promising answer fields 0 (tasks.set i next) := by
            intro j q hj
            by_cases hij : i = j
            · subst hij
              rw [List.getElem?_set_self (List.getElem?_eq_some_iff.mp hp).1] at hj
              obtain rfl := Option.some.inj hj
              exact kept.trans (promising i p hp)
            · rw [List.getElem?_set_ne hij] at hj
              exact promising j q hj
          obtain ⟨after, rest, length, promising''⟩ := answered_askScheduled schedule promising'
          refine ⟨after, ?_, by rw [length, List.length_set], promising''⟩
          rw [Nat.zero_add] at step
          show (p.askNext i >>= _).answered answer = _
          rw [Dialogue.answered_bind, step]
          exact rest

/-- The results of tasks are the rows that they promise. -/
theorem answered_askAll {fields : List String} :
    ∀ {position : Nat} {tasks : List Progress}, Promising answer fields position tasks →
      (askAll ((List.range' position tasks.length).zip tasks)).answered answer
        = answeredRows answer fields (List.range' position tasks.length)
  | _, [], _ => rfl
  | position, p :: tasks, promising => by
      have first : p.promised answer position = answeredRow answer position fields :=
        promising 0 p rfl
      have others : Promising answer fields (position + 1) tasks := by
        intro i q hq
        rw [Nat.add_assoc, Nat.add_comm 1 i]
        exact promising (i + 1) q hq
      rw [List.length_cons, List.range'_succ, List.zip_cons_cons, askAll, Dialogue.answered_bind,
        answeredRows_cons, answered_askRest, first]
      refine bind_congr (fun vs => ?_)
      rw [Dialogue.answered_bind, answered_askAll others]
      rfl

variable (answer) in
/-- Tasks that have read nothing promise the rows of their positions. -/
theorem promising_fresh (fields : List String) (n : Nat) :
    Promising answer fields 0 (List.replicate n (reading [] fields)) := by
  intro i p hi
  rw [List.eq_of_mem_replicate (List.mem_of_getElem? hi), promised_reading]
  exact id_map _

end Progress

/-! ## §3. What leaves a generator. -/

namespace Fault

theorem delivered_of_not_endsIteration {fault : Fault} (h : fault.endsIteration = false) :
    fault.delivered = fault := if_neg (Bool.eq_false_iff.mp h)

theorem delivered_of_endsIteration {fault : Fault} (h : fault.endsIteration = true) :
    fault.delivered = .generatorStopped := if_pos h

/-- What is delivered is delivered again as it is. -/
theorem delivered_delivered (fault : Fault) : fault.delivered.delivered = fault.delivered := by
  cases h : fault.endsIteration with
  | true => rw [delivered_of_endsIteration h]; rfl
  | false => rw [delivered_of_not_endsIteration h, delivered_of_not_endsIteration h]

end Fault

/-- Rows as they are delivered: by a generator if a pool of workers has read them. -/
def deliveredRows (pooled : Bool) (rows : Except Fault (List FieldValues)) :
    Except Fault (List FieldValues) := if pooled then rows.mapError .delivered else rows

/-- Rows are delivered as they are, unless there is the end of an iteration in place of
them. -/
theorem deliveredRows_eq {rows : Except Fault (List FieldValues)} (pooled : Bool)
    (h : ∀ fault, rows = .error fault → fault.endsIteration = false) :
    deliveredRows pooled rows = rows := by
  cases pooled with
  | false => rfl
  | true =>
      cases rows with
      | ok _ => rfl
      | error fault => exact congrArg Except.error (Fault.delivered_of_not_endsIteration (h fault rfl))

/-- What is done with rows ends alike however they are delivered, but for the way in which
a fault is. -/
theorem mapError_deliveredRows_bind {α : Type} (pooled : Bool)
    (rows : Except Fault (List FieldValues)) (next : List FieldValues → Except Fault α) :
    (deliveredRows pooled rows >>= next).mapError Fault.delivered
      = (rows >>= next).mapError Fault.delivered := by
  cases pooled with
  | false => rfl
  | true =>
      cases rows with
      | ok _ => rfl
      | error fault => exact congrArg Except.error fault.delivered_delivered

theorem deliveredRows_eq_ok {pooled : Bool} {rows : Except Fault (List FieldValues)}
    {result : List FieldValues} : deliveredRows pooled rows = .ok result ↔ rows = .ok result := by
  cases pooled with
  | false => rfl
  | true => exact mapError_eq_ok

theorem deliveredRows_error (pooled : Bool) (fault : Fault) :
    deliveredRows pooled (.error fault) = .error (if pooled then fault.delivered else fault) := by
  cases pooled <;> rfl

/-! ## §4. All decorations. -/

/-- **Every decoration delivers the rows of the answers, or their fault.** -/
theorem answered_askRows (concurrent : Bool) (schedule : List Nat) (fields : List String)
    (n : Nat) :
    (askRows concurrent schedule fields n).answered answer
      = deliveredRows (concurrent && decide (1 < n)) (answeredRows answer fields (List.range n)) := by
  unfold askRows deliveredRows
  split
  · obtain ⟨after, steps, length, promising⟩ :=
      Progress.answered_askScheduled schedule (Progress.promising_fresh answer fields n)
    rw [List.length_replicate] at length
    unfold askConcurrently
    rw [Dialogue.answered_bind, steps, ← length, List.range_eq_range',
      ← Progress.answered_askAll promising, ← Dialogue.answered_mapFault]
    rfl
  · rfl

end OrderBy
