/-
  OrderBy.Traced
  ──────────────
  **COMPUTATIONS THAT LEAVE A TRACE.**

  A traced computation yields the events it went through, in order, and then a
  result or a fault.  The events of a failed computation are kept: what was read
  or asked before the failure stays visible.

  A *run* is the same over a state, for computations whose steps may remember
  earlier ones, such as an extractor that counts its calls.

  Both are monads: events are concatenated, and nothing happens after a fault.
-/
import OrderBy.Fault

namespace OrderBy

/-! ## §1. Traced computations. -/

/-- The events of a computation and its result or fault. -/
structure Traced (ω α : Type) where
  events : List ω
  outcome : Except Fault α

namespace Traced

variable {ω ω' α β : Type}

/-- Do nothing and succeed. -/
protected def pure (a : α) : Traced ω α := ⟨[], .ok a⟩

/-- Continue with the result; after a fault nothing follows. -/
protected def bind (t : Traced ω α) (f : α → Traced ω β) : Traced ω β :=
  match t with
  | ⟨es, .ok a⟩ =>
    match f a with
    | ⟨fs, result⟩ => ⟨es ++ fs, result⟩
  | ⟨es, .error e⟩ => ⟨es, .error e⟩

instance : Monad (Traced ω) where
  pure := Traced.pure
  bind := Traced.bind

/-- Fail without an event. -/
def fail (e : Fault) : Traced ω α := ⟨[], .error e⟩

/-- Record one event. -/
def emit (event : ω) : Traced ω Unit := ⟨[event], .ok ()⟩

/-- A plain result or fault as a traced one without events. -/
def ofExcept (r : Except Fault α) : Traced ω α := ⟨[], r⟩

/-- Rename the events. -/
def mapEvents (f : ω → ω') (t : Traced ω α) : Traced ω' α := ⟨t.events.map f, t.outcome⟩

/-- Change the fault. -/
def mapFault (f : Fault → Fault) (t : Traced ω α) : Traced ω α := ⟨t.events, t.outcome.mapError f⟩

@[ext]
theorem ext {s t : Traced ω α} (events : s.events = t.events) (outcome : s.outcome = t.outcome) :
    s = t := by
  cases s
  cases t
  simp_all

@[simp]
theorem pure_eq (a : α) : (pure a : Traced ω α) = ⟨[], .ok a⟩ := rfl

theorem bind_eq (t : Traced ω α) (f : α → Traced ω β) : t >>= f = t.bind f := rfl

/-- A success continues, its events in front. -/
theorem bind_ok {t : Traced ω α} {a : α} (h : t.outcome = .ok a) (f : α → Traced ω β) :
    t >>= f = ⟨t.events ++ (f a).events, (f a).outcome⟩ := by
  obtain ⟨es, _ | b⟩ := t <;> simp_all [bind_eq, Traced.bind]

/-- A fault ends the computation. -/
theorem bind_error {t : Traced ω α} {e : Fault} (h : t.outcome = .error e) (f : α → Traced ω β) :
    t >>= f = ⟨t.events, .error e⟩ := by
  obtain ⟨es, _ | b⟩ := t <;> simp_all [bind_eq, Traced.bind]

/-- Changing nothing changes nothing. -/
theorem id_map (t : Traced ω α) : id <$> t = t := by
  show t.bind _ = t
  rcases t with ⟨es, _ | _⟩ <;> simp [Traced.bind, Traced.pure]

/-- A result without events is passed on. -/
theorem pure_bind (a : α) (f : α → Traced ω β) : pure a >>= f = f a := by
  show Traced.bind (Traced.pure a) f = f a
  simp [Traced.bind, Traced.pure]

/-- Grouping does not matter. -/
theorem bind_assoc {γ : Type} (t : Traced ω α) (f : α → Traced ω β) (g : β → Traced ω γ) :
    t >>= f >>= g = t >>= fun a => f a >>= g := by
  show (t.bind f).bind g = t.bind (fun a => (f a).bind g)
  rcases t with ⟨es, _ | a⟩
  · rfl
  · rcases h : f a with ⟨fs, _ | b⟩ <;> simp [Traced.bind, h]

instance : LawfulMonad (Traced ω) :=
  LawfulMonad.mk' (Traced ω) Traced.id_map Traced.pure_bind Traced.bind_assoc

end Traced

/-! ## §2. Runs. -/

/-- A traced computation over a state, which is kept also after a fault. -/
def Run (σ ω α : Type) : Type := σ → Traced ω α × σ

namespace Run

variable {σ ω ω' α β : Type}

/-- Do nothing and succeed. -/
protected def pure (a : α) : Run σ ω α := fun s => (pure a, s)

/-- Continue with the result and the state; after a fault nothing follows. -/
protected def bind (r : Run σ ω α) (f : α → Run σ ω β) : Run σ ω β := fun s =>
  match r s with
  | (⟨es, .ok a⟩, s') =>
    match f a s' with
    | (⟨fs, result⟩, s'') => (⟨es ++ fs, result⟩, s'')
  | (⟨es, .error e⟩, s') => (⟨es, .error e⟩, s')

instance : Monad (Run σ ω) where
  pure := Run.pure
  bind := Run.bind

/-- A traced computation, which leaves the state as it is. -/
def lift (t : Traced ω α) : Run σ ω α := fun s => (t, s)

/-- Rename the events. -/
def mapEvents (f : ω → ω') (r : Run σ ω α) : Run σ ω' α := fun s =>
  let (t, s') := r s
  (t.mapEvents f, s')

/-- Change the fault. -/
def mapFault (f : Fault → Fault) (r : Run σ ω α) : Run σ ω α := fun s =>
  let (t, s') := r s
  (t.mapFault f, s')

/-- Fail without an event. -/
def fail (e : Fault) : Run σ ω α := lift (Traced.fail e)

/-- Record one event. -/
def emit (event : ω) : Run σ ω Unit := lift (Traced.emit event)

/-- Hand a fault on as a result, so that what follows is carried out. -/
def attempt (r : Run σ ω α) : Run σ ω (Except Fault α) := fun s =>
  let (t, s') := r s
  (⟨t.events, .ok t.outcome⟩, s')

/-- Take a value from the state and change it. -/
def modifyGet (f : σ → α × σ) : Run σ ω α := fun s => (pure (f s).1, (f s).2)

theorem bind_eq (r : Run σ ω α) (f : α → Run σ ω β) : r >>= f = r.bind f := rfl

/-- Changing nothing changes nothing. -/
theorem id_map (r : Run σ ω α) : id <$> r = r := by
  funext s
  show r.bind _ s = r s
  rcases h : r s with ⟨⟨es, _ | _⟩, s'⟩ <;> simp [Run.bind, Run.pure, h]

/-- A result without events is passed on. -/
theorem pure_bind (a : α) (f : α → Run σ ω β) : pure a >>= f = f a := by
  funext s
  show Run.bind (Run.pure a) f s = f a s
  simp [Run.bind, Run.pure]

/-- Grouping does not matter. -/
theorem bind_assoc {γ : Type} (r : Run σ ω α) (f : α → Run σ ω β) (g : β → Run σ ω γ) :
    r >>= f >>= g = r >>= fun a => f a >>= g := by
  funext s
  show (r.bind f).bind g s = r.bind (fun a => (f a).bind g) s
  rcases h : r s with ⟨⟨es, _ | a⟩, s'⟩
  · simp [Run.bind, h]
  · rcases h' : f a s' with ⟨⟨fs, _ | b⟩, s''⟩ <;> simp [Run.bind, h, h']

instance : LawfulMonad (Run σ ω) :=
  LawfulMonad.mk' (Run σ ω) Run.id_map Run.pure_bind Run.bind_assoc

end Run

end OrderBy
