/-
  OrderBy.Proofs.Reading.Dialogue
  ───────────────────────────────
  **DECORATION IS A DIALOGUE: IT ASKS FOR PLACES AND SEES OUTCOMES ONLY.**

  What a decoration does between its readings has nothing to do with records,
  extractors or their state.  It is a tree: a place that is asked for, which is a
  position and a field, and a branch for each outcome.  A dialogue has three meanings,

      run         in a state: readings change it and leave events
      readings    the readings that take place from a state on, with their outcomes
      answered    with given answers, one for each place, in place of readings

  and the run is the answered dialogue wherever its readings give these answers.
  So all that is left to prove of a decoration is about answers, and pure.
-/
import OrderBy.Proofs.Reading.Agenda

namespace OrderBy

variable {σ α β : Type}

/-! ## §1. Dialogues. -/

/-- A computation that asks for the readings of places and goes on by their outcomes. -/
inductive Dialogue (α : Type) : Type where
  | done (result : Except Fault α)
  | ask (position : Nat) (field : String) (next : Except Fault Value → Dialogue α)

namespace Dialogue

/-- Continue with the result; after a fault nothing follows. -/
protected def bind : Dialogue α → (α → Dialogue β) → Dialogue β
  | done (.ok a), f => f a
  | done (.error e), _ => done (.error e)
  | ask position field next, f => ask position field (fun v => (next v).bind f)

instance : Monad Dialogue where
  pure a := done (.ok a)
  bind := Dialogue.bind

/-- Change the fault. -/
def mapFault (g : Fault → Fault) : Dialogue α → Dialogue α
  | done result => done (result.mapError g)
  | ask position field next => ask position field (fun v => (next v).mapFault g)

/-- Ask for one place; the fault of the reading is the fault of the dialogue. -/
def reading (position : Nat) (field : String) : Dialogue Value := ask position field done

variable (position : Nat) (field : String)

theorem ask_bind (next : Except Fault Value → Dialogue α) (f : α → Dialogue β) :
    ask position field next >>= f = ask position field (fun v => next v >>= f) := rfl

end Dialogue

/-! ## §2. The run of a dialogue. -/

/-- Take the reading of a place.  There is a record at every position that is asked
for. -/
def takeAt (extractors : Extractors σ) (records : List Record) (position : Nat) (field : String) :
    Run σ Event Value :=
  readOne position (records.getD position ⟨0, .plain .null⟩) field
    (Accessor.forField extractors field)

theorem takeAt_of_getElem? {extractors : Extractors σ} {records : List Record} {position : Nat}
    {r : Record} (h : records[position]? = some r) (field : String) :
    takeAt extractors records position field
      = readOne position r field (Accessor.forField extractors field) := by
  unfold takeAt
  rw [List.getD_eq_getElem?_getD, h]
  rfl

section Run

variable (extractors : Extractors σ) (records : List Record)

theorem attempts_takeAt (position : Nat) (field : String) (st : σ) :
    attempts ((takeAt extractors records position field).events st) = [(position, field)] := by
  unfold takeAt
  rw [readOne_events]
  exact congrArg ((position, field) :: ·) (attempts_access _)

namespace Dialogue

/-- Take the readings that a dialogue asks for. -/
def run : Dialogue α → Run σ Event α
  | done result => Run.lift (Traced.ofExcept result)
  | ask position field next =>
    (takeAt extractors records position field).attempt >>= fun v => (next v).run

theorem run_ask (position : Nat) (field : String) (next : Except Fault Value → Dialogue α) :
    (ask position field next).run extractors records
      = (takeAt extractors records position field).attempt
          >>= fun v => (next v).run extractors records := rfl

/-- Running respects sequencing. -/
theorem run_bind (f : α → Dialogue β) :
    ∀ t : Dialogue α, (t >>= f).run extractors records
      = t.run extractors records >>= fun a => (f a).run extractors records
  | done (.ok a) => (Run.pure_bind a (fun a => (f a).run extractors records)).symm
  | done (.error e) => by
      funext st
      rw [Run.bind_error (by rfl)]
      rfl
  | ask position field next => by
      rw [ask_bind, run_ask, run_ask, bind_assoc]
      exact bind_congr (fun v => run_bind f (next v))

/-- Running respects a change of the fault. -/
theorem run_mapFault (g : Fault → Fault) : ∀ t : Dialogue α,
    (t.mapFault g).run extractors records = (t.run extractors records).mapFault g
  | done _ => rfl
  | ask position field next => by
      rw [run_ask, Run.attempt_bind_mapFault, mapFault, run_ask]
      exact bind_congr (fun v => run_mapFault g (next v))

/-- Asking for a place is taking its reading. -/
theorem run_reading (position : Nat) (field : String) :
    (reading position field).run extractors records = takeAt extractors records position field :=
  Run.attempt_bind_lift _

end Dialogue

/-! ## §3. The readings that take place. -/

/-- A reading that took place, with its outcome. -/
structure TakenReading where
  position : Nat
  field : String
  outcome : Except Fault Value

/-- Where a reading took place. -/
def TakenReading.place (x : TakenReading) : Nat × String := (x.position, x.field)

namespace Dialogue

/-- The readings that take place from a state on. -/
def readings : Dialogue α → σ → List TakenReading
  | done _, _ => []
  | ask position field next, st =>
    ⟨position, field, (takeAt extractors records position field).outcome st⟩
      :: (next ((takeAt extractors records position field).outcome st)).readings
        ((takeAt extractors records position field).final st)

/-- The readings that take place are those that were attempted. -/
theorem attempts_run : ∀ (t : Dialogue α) (st : σ),
    attempts ((t.run extractors records).events st)
      = (t.readings extractors records st).map TakenReading.place
  | done _, _ => rfl
  | ask position field next, st => by
      rw [run_ask, Run.events_bind_ok (Run.outcome_attempt _ st), attempts_append,
        Run.events_attempt, attempts_takeAt, attempts_run (next _)]
      rfl

end Dialogue

end Run

/-! ## §4. Answers in place of readings. -/

/-- Every one of some readings has the answer for its place. -/
def GiveAnswers (answer : Nat → String → Except Fault Value) (readings : List TakenReading) : Prop :=
  ∀ x ∈ readings, x.outcome = answer x.position x.field

namespace Dialogue

section Answered

variable (answer : Nat → String → Except Fault Value)

/-- The result of a dialogue with an answer for each place. -/
def answered : Dialogue α → Except Fault α
  | done result => result
  | ask position field next => (next (answer position field)).answered

/-- Answering respects sequencing. -/
theorem answered_bind (f : α → Dialogue β) :
    ∀ t : Dialogue α,
      (t >>= f).answered answer = t.answered answer >>= fun a => (f a).answered answer
  | done (.ok _) => rfl
  | done (.error _) => rfl
  | ask position field next => answered_bind f (next (answer position field))

/-- Answering respects a change of the fault. -/
theorem answered_mapFault (g : Fault → Fault) :
    ∀ t : Dialogue α, (t.mapFault g).answered answer = (t.answered answer).mapError g
  | done _ => rfl
  | ask position field next => answered_mapFault g (next (answer position field))

end Answered

variable {extractors : Extractors σ} {records : List Record}

/-- **A dialogue whose readings give the answers is the answered dialogue.** -/
theorem run_of_giveAnswers {answer : Nat → String → Except Fault Value} :
    ∀ {t : Dialogue α} {st : σ}, GiveAnswers answer (t.readings extractors records st) →
      (t.run extractors records).outcome st = t.answered answer
  | done _, _, _ => rfl
  | ask position field next, st, h => by
      obtain ⟨first, others⟩ := List.forall_mem_cons.mp h
      have first : (takeAt extractors records position field).outcome st
        = answer position field := first
      rw [run_ask, Run.outcome_bind_ok (Run.outcome_attempt _ st), Run.final_attempt,
        run_of_giveAnswers others, first]
      rfl

/-- Every reading takes place in some state. -/
theorem exists_state_of_mem_readings :
    ∀ {t : Dialogue α} {st : σ}, ∀ x ∈ t.readings extractors records st,
      ∃ st', x.outcome = (takeAt extractors records x.position x.field).outcome st'
  | done _, _ => List.forall_mem_nil _
  | ask _ _ _, st => List.forall_mem_cons.mpr ⟨⟨st, rfl⟩, exists_state_of_mem_readings⟩

/-! ## §5. Spending places. -/

/-- Whatever the outcomes are, a dialogue asks only for places that it may spend, and for
each of them at most as often as it is there; what is left with a result is known. -/
def Spends (Q : α → List (Nat × String) → Prop) : Dialogue α → List (Nat × String) → Prop
  | done (.ok a), left => Q a left
  | done (.error _), _ => True
  | ask position field next, budget =>
    ∃ left, budget.Perm ((position, field) :: left) ∧ ∀ v, (next v).Spends Q left

namespace Spends

variable {Q : α → List (Nat × String) → Prop} {S : β → List (Nat × String) → Prop}

theorem reading {position : Nat} {field : String} {budget left : List (Nat × String)}
    (h : budget.Perm ((position, field) :: left)) :
    Spends (fun _ rest => rest.Perm left) (Dialogue.reading position field) budget := by
  refine ⟨left, h, fun v => ?_⟩
  cases v with
  | ok v => exact List.Perm.refl left
  | error fault => trivial

theorem pure {a : α} {left : List (Nat × String)} (h : Q a left) :
    Spends Q (Pure.pure a : Dialogue α) left := h

theorem mono {S : α → List (Nat × String) → Prop} (h : ∀ a left, Q a left → S a left) :
    ∀ {t : Dialogue α} {budget : List (Nat × String)}, Spends Q t budget → Spends S t budget
  | done (.ok a), left, hQ => h a left hQ
  | done (.error _), _, _ => trivial
  | ask _ _ _, _, ⟨left, perm, hQ⟩ => ⟨left, perm, fun v => mono h (hQ v)⟩

/-- A change of the fault spends nothing. -/
theorem mapFault (g : Fault → Fault) : ∀ {t : Dialogue α} {budget : List (Nat × String)},
    Spends Q t budget → Spends Q (t.mapFault g) budget
  | done (.ok _), _, hQ => hQ
  | done (.error _), _, _ => trivial
  | ask _ _ _, _, ⟨left, perm, hQ⟩ => ⟨left, perm, fun v => mapFault g (hQ v)⟩

/-- What follows spends what is left. -/
theorem bind {f : α → Dialogue β} (hf : ∀ a left, Q a left → Spends S (f a) left) :
    ∀ {t : Dialogue α} {budget : List (Nat × String)}, Spends Q t budget → Spends S (t >>= f) budget
  | done (.ok a), left, h => hf a left h
  | done (.error _), _, _ => trivial
  | ask _ _ _, _, ⟨left, perm, h⟩ => ⟨left, perm, fun v => bind hf (h v)⟩

variable (extractors records) in
/-- **The readings that take place are some of those that may be spent.** -/
theorem readings : ∀ {t : Dialogue α} {budget : List (Nat × String)}, Spends Q t budget →
    ∀ st : σ, ∃ left,
      budget.Perm ((t.readings extractors records st).map TakenReading.place ++ left)
        ∧ ∀ a, (t.run extractors records).outcome st = .ok a → Q a left
  | done (.ok a), left, h, st => by
      refine ⟨left, List.Perm.refl _, fun b hb => ?_⟩
      obtain rfl : a = b := Except.ok.inj hb
      exact h
  | done (.error e), left, _, st => ⟨left, List.Perm.refl _, fun _ h => nomatch h⟩
  | ask position field next, budget, ⟨left, perm, h⟩, st => by
      obtain ⟨rest, perm', result⟩ := readings (h ((takeAt extractors records position field).outcome
        st)) ((takeAt extractors records position field).final st)
      refine ⟨rest, perm.trans (perm'.cons _), fun a ha => result a ?_⟩
      rwa [run_ask, Run.outcome_bind_ok (Run.outcome_attempt _ st)] at ha

/-- Readings of places that may be spent give answers if each place does in every
state. -/
theorem giveAnswers {t : Dialogue α} {budget : List (Nat × String)} (h : Spends Q t budget)
    {answer : Nat → String → Except Fault Value}
    (hanswer : ∀ x ∈ budget, ∀ st, (takeAt extractors records x.1 x.2).outcome st = answer x.1 x.2)
    (st : σ) : GiveAnswers answer (t.readings extractors records st) := by
  intro x hx
  obtain ⟨left, perm, -⟩ := h.readings extractors records st
  obtain ⟨st', outcome⟩ := exists_state_of_mem_readings x hx
  have spent : x.place ∈ budget :=
    perm.mem_iff.mpr (List.mem_append_left _ (List.mem_map_of_mem hx))
  exact outcome.trans (hanswer x.place spent st')

/-- **Readings that have the same outcome and leave the same state are not told apart.** -/
theorem run_congr {extractors' : Extractors σ} {records' : List Record} :
    ∀ {t : Dialogue α} {budget : List (Nat × String)}, Spends Q t budget →
      (∀ x ∈ budget, ∀ st,
        (takeAt extractors records x.1 x.2).outcome st
            = (takeAt extractors' records' x.1 x.2).outcome st
          ∧ (takeAt extractors records x.1 x.2).final st
            = (takeAt extractors' records' x.1 x.2).final st) →
      ∀ st, (t.run extractors records).outcome st = (t.run extractors' records').outcome st
  | done _, _, _, _, _ => rfl
  | ask position field next, budget, ⟨left, perm, h⟩, alike, st => by
      obtain ⟨outcome, final⟩ := alike (position, field) (perm.mem_iff.mpr List.mem_cons_self) st
      have others := run_congr (h ((takeAt extractors records position field).outcome st))
        (fun x hx => alike x (perm.mem_iff.mpr (List.mem_cons_of_mem _ hx)))
      rw [run_ask, run_ask, Run.outcome_bind_ok (Run.outcome_attempt _ st),
        Run.outcome_bind_ok (Run.outcome_attempt _ st), others, outcome]
      exact congrArg _ final

end Spends

end Dialogue

/-- Readings of different places give answers. -/
theorem exists_giveAnswers : ∀ {readings : List TakenReading},
    (readings.map TakenReading.place).Nodup → ∃ answer, GiveAnswers answer readings
  | [], _ => ⟨fun _ _ => .ok .null, List.forall_mem_nil _⟩
  | x :: readings, h => by
      obtain ⟨apart, others⟩ := List.nodup_cons.mp h
      obtain ⟨answer, give⟩ := exists_giveAnswers others
      refine ⟨fun i f => if (i, f) = x.place then x.outcome else answer i f, ?_⟩
      refine List.forall_mem_cons.mpr ⟨(if_pos rfl).symm, fun y hy => ?_⟩
      have different : (y.position, y.field) ≠ x.place := by
        intro same
        exact apart (same ▸ List.mem_map_of_mem hy)
      exact (give y hy).trans (if_neg different).symm

end OrderBy
