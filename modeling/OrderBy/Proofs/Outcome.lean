/-
  OrderBy.Proofs.Outcome
  ──────────────────────
  **WHAT COMES OUT OF A COMPUTATION.**

  A traced computation is its events and its outcome; a run is the same from a
  state on, and ends in a state.  The outcome forgets the events, and forgetting
  them respects sequencing:

      (t >>= f).outcome  =  t.outcome >>= fun a => (f a).outcome

  The lemmas below are all that later proofs need to know of either monad.
-/
import OrderBy.Traced

namespace OrderBy

/-! ## §1. Results that are changed. -/

theorem map_eq_ok {α β : Type} {f : α → β} {o : Except Fault α} {b : β} :
    f <$> o = .ok b ↔ ∃ a, o = .ok a ∧ f a = b := by
  cases o with
  | ok a => simp [Functor.map, Except.map]
  | error fault => simp [Functor.map, Except.map]

theorem map_eq_error {α β : Type} {f : α → β} {o : Except Fault α} {fault : Fault} :
    f <$> o = .error fault ↔ o = .error fault := by
  cases o with
  | ok a => simp [Functor.map, Except.map]
  | error fault' => simp [Functor.map, Except.map]

/-- A sequence fails in its first part or behind it. -/
theorem bind_eq_error {α β : Type} {o : Except Fault α} {f : α → Except Fault β} {fault : Fault} :
    o >>= f = .error fault ↔ o = .error fault ∨ ∃ a, o = .ok a ∧ f a = .error fault := by
  cases o <;> simp [bind, Except.bind]

/-- Changing the fault changes no result. -/
theorem mapError_eq_ok {α : Type} {f : Fault → Fault} {o : Except Fault α} {a : α} :
    o.mapError f = .ok a ↔ o = .ok a := by
  cases o with
  | ok b => exact Iff.rfl
  | error fault => exact iff_of_false nofun nofun

/-! ## §2. Traced computations. -/

namespace Traced

variable {ω ω' α β : Type}

@[simp]
theorem outcome_pure (a : α) : (pure a : Traced ω α).outcome = .ok a := rfl

@[simp]
theorem events_pure (a : α) : (pure a : Traced ω α).events = [] := rfl

@[simp]
theorem outcome_emit (event : ω) : (emit event).outcome = .ok () := rfl

@[simp]
theorem events_emit (event : ω) : (emit event).events = [event] := rfl

@[simp]
theorem outcome_fail (e : Fault) : (fail e : Traced ω α).outcome = .error e := rfl

@[simp]
theorem outcome_ofExcept (r : Except Fault α) : (ofExcept r : Traced ω α).outcome = r := rfl

@[simp]
theorem events_ofExcept (r : Except Fault α) : (ofExcept r : Traced ω α).events = [] := rfl

@[simp]
theorem outcome_mapEvents (f : ω → ω') (t : Traced ω α) :
    (t.mapEvents f).outcome = t.outcome := rfl

@[simp]
theorem events_mapEvents (f : ω → ω') (t : Traced ω α) :
    (t.mapEvents f).events = t.events.map f := rfl

/-- Forgetting the events respects sequencing. -/
theorem outcome_bind (t : Traced ω α) (f : α → Traced ω β) :
    (t >>= f).outcome = t.outcome >>= fun a => (f a).outcome := by
  rcases h : t.outcome with e | a
  · rw [bind_error h]
    rfl
  · rw [bind_ok h]
    rfl

/-- A computation that succeeds has a first part that does, and what follows it does too. -/
theorem outcome_bind_eq_ok {t : Traced ω α} {f : α → Traced ω β} {b : β}
    (h : (t >>= f).outcome = .ok b) : ∃ a, t.outcome = .ok a ∧ (f a).outcome = .ok b := by
  rw [outcome_bind] at h
  cases ho : t.outcome with
  | error fault =>
      rw [ho] at h
      cases h
  | ok a =>
      rw [ho] at h
      exact ⟨a, rfl, h⟩

/-- An event in front does not show in the outcome. -/
@[simp]
theorem outcome_emit_bind (event : ω) (f : Unit → Traced ω β) :
    (emit event >>= f).outcome = (f ()).outcome := outcome_bind _ _

/-- A result is changed in the outcome as it is in the computation. -/
theorem outcome_map (g : α → β) (t : Traced ω α) : (g <$> t).outcome = g <$> t.outcome := by
  rw [← bind_pure_comp, outcome_bind]
  cases t.outcome <;> rfl

/-- Changing the result leaves the events as they are. -/
theorem events_map (g : α → β) (t : Traced ω α) : (g <$> t).events = t.events := by
  rw [← bind_pure_comp]
  cases h : t.outcome with
  | error e => rw [bind_error h]
  | ok a =>
      rw [bind_ok h]
      exact List.append_nil _

end Traced

/-! ## §3. Runs. -/

namespace Run

variable {σ ω ω' α β : Type}

/-- The result or fault of a run from a state on. -/
def outcome (r : Run σ ω α) (s : σ) : Except Fault α := (r s).1.outcome

/-- The events of a run from a state on. -/
def events (r : Run σ ω α) (s : σ) : List ω := (r s).1.events

/-- The state in which a run ends. -/
def final (r : Run σ ω α) (s : σ) : σ := (r s).2

@[simp]
theorem outcome_pure (a : α) (s : σ) : (pure a : Run σ ω α).outcome s = .ok a := rfl

@[simp]
theorem events_pure (a : α) (s : σ) : (pure a : Run σ ω α).events s = [] := rfl

@[simp]
theorem outcome_lift (t : Traced ω α) (s : σ) : (lift t).outcome s = t.outcome := rfl

@[simp]
theorem events_lift (t : Traced ω α) (s : σ) : (lift t).events s = t.events := rfl

@[simp]
theorem final_lift (t : Traced ω α) (s : σ) : (lift t).final s = s := rfl

@[simp]
theorem outcome_mapEvents (f : ω → ω') (r : Run σ ω α) (s : σ) :
    (r.mapEvents f).outcome s = r.outcome s := rfl

@[simp]
theorem events_mapEvents (f : ω → ω') (r : Run σ ω α) (s : σ) :
    (r.mapEvents f).events s = (r.events s).map f := rfl

/-- A fault that is handed on does not end the run. -/
@[simp]
theorem outcome_attempt (r : Run σ ω α) (s : σ) : r.attempt.outcome s = .ok (r.outcome s) := rfl

@[simp]
theorem events_attempt (r : Run σ ω α) (s : σ) : r.attempt.events s = r.events s := rfl

@[simp]
theorem final_attempt (r : Run σ ω α) (s : σ) : r.attempt.final s = r.final s := rfl

@[simp]
theorem outcome_mapFault (f : Fault → Fault) (r : Run σ ω α) (s : σ) :
    (r.mapFault f).outcome s = (r.outcome s).mapError f := rfl

@[simp]
theorem events_mapFault (f : Fault → Fault) (r : Run σ ω α) (s : σ) :
    (r.mapFault f).events s = r.events s := rfl

/-- A fault that is handed on and then raised again has not been handed on. -/
theorem attempt_bind_lift (r : Run σ ω α) :
    (r.attempt >>= fun v => lift (Traced.ofExcept v)) = r := by
  funext s
  show ((⟨(r s).1.events ++ [], (r s).1.outcome⟩ : Traced ω α), (r s).2) = r s
  rw [List.append_nil]

/-- Behind a fault that is handed on, only what follows can fail. -/
theorem attempt_bind_mapFault (f : Fault → Fault) (r : Run σ ω α)
    (next : Except Fault α → Run σ ω β) :
    (r.attempt >>= next).mapFault f = r.attempt >>= fun v => (next v).mapFault f := rfl

/-- A success continues from where it ended, its events in front. -/
theorem bind_ok {r : Run σ ω α} {s : σ} {a : α} (h : r.outcome s = .ok a)
    (f : α → Run σ ω β) :
    (r >>= f) s = (⟨r.events s ++ (f a).events (r.final s), (f a).outcome (r.final s)⟩,
      (f a).final (r.final s)) := by
  unfold outcome at h
  rw [bind_eq]
  unfold Run.bind events final outcome
  rcases hr : r s with ⟨⟨es, _ | b⟩, s'⟩ <;> simp_all

/-- A fault ends the run. -/
theorem bind_error {r : Run σ ω α} {s : σ} {e : Fault} (h : r.outcome s = .error e)
    (f : α → Run σ ω β) : (r >>= f) s = (⟨r.events s, .error e⟩, r.final s) := by
  unfold outcome at h
  rw [bind_eq]
  unfold Run.bind events final
  rcases hr : r s with ⟨⟨es, _ | b⟩, s'⟩ <;> simp_all

/-- The faults of a sequence are changed part by part. -/
theorem mapFault_bind (g : Fault → Fault) (r : Run σ ω α) (f : α → Run σ ω β) :
    (r >>= f).mapFault g = r.mapFault g >>= fun a => (f a).mapFault g := by
  funext s
  rcases h : r s with ⟨⟨es, e | a⟩, s'⟩ <;> simp only [mapFault, bind_eq, Run.bind, h] <;> rfl

theorem mapFault_id (r : Run σ ω α) : r.mapFault id = r := by
  funext s
  rcases h : r s with ⟨⟨es, e | a⟩, s'⟩ <;> simp only [mapFault, h] <;> rfl

/-- The outcome after a success is that of what follows. -/
theorem outcome_bind_ok {r : Run σ ω α} {s : σ} {a : α} (h : r.outcome s = .ok a)
    (f : α → Run σ ω β) : (r >>= f).outcome s = (f a).outcome (r.final s) := by
  show ((r >>= f) s).1.outcome = _
  rw [bind_ok h]

/-- The outcome after a fault is that fault. -/
theorem outcome_bind_error {r : Run σ ω α} {s : σ} {e : Fault} (h : r.outcome s = .error e)
    (f : α → Run σ ω β) : (r >>= f).outcome s = .error e := by
  show ((r >>= f) s).1.outcome = _
  rw [bind_error h]

/-- A run that succeeds has a first part that does, and what follows it does too. -/
theorem outcome_bind_eq_ok {r : Run σ ω α} {f : α → Run σ ω β} {s : σ} {b : β}
    (h : (r >>= f).outcome s = .ok b) :
    ∃ a, r.outcome s = .ok a ∧ (f a).outcome (r.final s) = .ok b := by
  rcases hr : r.outcome s with e | a
  · rw [outcome_bind_error hr] at h
    cases h
  · rw [outcome_bind_ok hr] at h
    exact ⟨a, rfl, h⟩

/-- The state after a success is that in which what follows ends. -/
theorem final_bind_ok {r : Run σ ω α} {s : σ} {a : α} (h : r.outcome s = .ok a)
    (f : α → Run σ ω β) : (r >>= f).final s = (f a).final (r.final s) := by
  show ((r >>= f) s).2 = _
  rw [bind_ok h]

/-- The events of a run are those of its first part and, if that succeeds, those of
what follows. -/
theorem events_bind (r : Run σ ω α) (f : α → Run σ ω β) (s : σ) :
    (r >>= f).events s
      = r.events s ++ match r.outcome s with
          | .ok a => (f a).events (r.final s)
          | .error _ => [] := by
  show ((r >>= f) s).1.events = _
  cases h : r.outcome s with
  | ok a => rw [bind_ok h]
  | error e =>
      rw [bind_error h]
      exact (List.append_nil _).symm

theorem events_bind_ok {r : Run σ ω α} {s : σ} {a : α} (h : r.outcome s = .ok a)
    (f : α → Run σ ω β) : (r >>= f).events s = r.events s ++ (f a).events (r.final s) := by
  rw [events_bind, h]

theorem events_bind_error {r : Run σ ω α} {s : σ} {e : Fault} (h : r.outcome s = .error e)
    (f : α → Run σ ω β) : (r >>= f).events s = r.events s := by
  rw [events_bind, h]
  exact List.append_nil _

/-- A result is changed in the outcome as it is in the run. -/
theorem outcome_map (g : α → β) (r : Run σ ω α) (s : σ) :
    (g <$> r).outcome s = g <$> r.outcome s := by
  rw [← bind_pure_comp]
  rcases h : r.outcome s with e | a
  · rw [outcome_bind_error h]
    rfl
  · rw [outcome_bind_ok h]
    rfl

/-- Changing the result leaves the events as they are. -/
theorem events_map (g : α → β) (r : Run σ ω α) (s : σ) : (g <$> r).events s = r.events s := by
  rw [← bind_pure_comp, events_bind]
  cases r.outcome s <;> exact List.append_nil _

end Run

end OrderBy
