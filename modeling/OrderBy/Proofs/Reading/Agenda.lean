/-
  OrderBy.Proofs.Reading.Agenda
  ─────────────────────────────
  **THE READINGS THAT ARE DUE, ONE AFTER THE OTHER.**

  Serial decoration is two loops, over the records and over the distinct fields.
  Its values apart, it is one loop over one list, the agenda:

      (record 0, first field), (record 0, second field), …, (record 1, first field), …

  Following an agenda begins its readings in order, each from the state that the
  reading before it left, and ends with the first one that fails.  So either every
  reading on the agenda was begun once, or those up to one that fails.
-/
import OrderBy.Proofs.Reads
import Mathlib.Data.List.Nodup

namespace OrderBy

variable {σ ω α β : Type}

/-! ## §1. Runs whose result does not matter. -/

/-- A run without its result. -/
def Run.forget (r : Run σ ω α) : Run σ ω Unit := (fun _ => ()) <$> r

namespace Run

@[simp]
theorem forget_pure (a : α) : (Pure.pure a : Run σ ω α).forget = Pure.pure () :=
  map_pure _ _

/-- Only the last result of a sequence is forgotten. -/
theorem forget_bind (r : Run σ ω α) (f : α → Run σ ω β) :
    (r >>= f).forget = r >>= fun a => (f a).forget :=
  map_bind _ _ _

/-- Ending without a result is forgetting the one there was. -/
theorem bind_pure_unit (r : Run σ ω α) : (r >>= fun _ => Pure.pure ()) = r.forget :=
  bind_pure_comp (fun _ => ()) r

/-- What follows may as well follow the run without its result if it does not look at
the result. -/
theorem forget_then (r : Run σ ω α) (u : Run σ ω β) : (r.forget >>= fun _ => u) = r >>= fun _ => u :=
  bind_map_left _ _ _

theorem outcome_forget (r : Run σ ω α) (s : σ) :
    r.forget.outcome s = (fun _ => ()) <$> r.outcome s :=
  outcome_map _ _ _

theorem events_forget (r : Run σ ω α) (s : σ) : r.forget.events s = r.events s :=
  events_map _ _ _

end Run

/-! ## §2. Agendas. -/

/-- A reading that is due: of which field of which record, and how. -/
structure DueReading (σ : Type) where
  position : Nat
  record : Record
  field : String
  accessor : Accessor σ

namespace DueReading

/-- Where the reading takes place: the position of the record and the field. -/
def place (d : DueReading σ) : Nat × String := (d.position, d.field)

/-- What the reading gives from a state on. -/
def outcome (d : DueReading σ) (st : σ) : Except Fault Value := (d.accessor.read d.record).outcome st

/-- The reading as a step of a sort. -/
def take (d : DueReading σ) : Run σ Event Value := readOne d.position d.record d.field d.accessor

end DueReading

/-- The readings that are due of one record. -/
def recordAgenda (position : Nat) (r : Record) (accessors : List (String × Accessor σ)) :
    List (DueReading σ) :=
  accessors.map (fun a => ⟨position, r, a.1, a.2⟩)

/-- The readings that are due of some records, the first of them at a position. -/
def agenda (accessors : List (String × Accessor σ)) : Nat → List Record → List (DueReading σ)
  | _, [] => []
  | position, r :: rs => recordAgenda position r accessors ++ agenda accessors (position + 1) rs

/-- Take the readings of an agenda in order. -/
def follow : List (DueReading σ) → Run σ Event Unit
  | [] => pure ()
  | d :: ds => do
    let _ ← d.take
    follow ds

theorem follow_append (ds ds' : List (DueReading σ)) :
    follow (ds ++ ds') = follow ds >>= fun _ => follow ds' := by
  induction ds with
  | nil => exact (Run.pure_bind () (fun _ => follow ds')).symm
  | cons d ds ih =>
      show (d.take >>= fun _ => follow (ds ++ ds')) = (d.take >>= fun _ => follow ds) >>= _
      rw [ih, bind_assoc]

/-- Reading the fields of a record is following its agenda. -/
theorem readFields_forget (position : Nat) (r : Record) :
    ∀ accessors : List (String × Accessor σ),
      (readFields position r accessors).forget = follow (recordAgenda position r accessors)
  | [] => rfl
  | (f, accessor) :: accessors => by
      unfold readFields
      rw [Run.forget_bind]
      show _ = readOne position r f accessor >>= fun _ => follow (recordAgenda position r accessors)
      rw [← readFields_forget position r accessors]
      refine bind_congr (fun v => ?_)
      rw [Run.forget_bind]
      simp only [Run.forget_pure]
      exact Run.bind_pure_unit _

/-- **Serial decoration is following one agenda.** -/
theorem readSerially_forget (accessors : List (String × Accessor σ)) :
    ∀ (position : Nat) (records : List Record),
      (readSerially accessors position records).forget = follow (agenda accessors position records)
  | _, [] => rfl
  | position, r :: records => by
      unfold readSerially agenda
      rw [Run.forget_bind, follow_append, ← readFields_forget, Run.forget_then,
        ← readSerially_forget accessors (position + 1) records]
      refine bind_congr (fun vs => ?_)
      rw [Run.forget_bind]
      simp only [Run.forget_pure]
      exact Run.bind_pure_unit _

/-! ## §3. Kinds of events. -/

/-- Whether an event belongs to the reading of a field. -/
def Event.isReading : Event → Bool
  | .attempt _ _ | .access _ => true
  | _ => false

/-- Whether an event belongs to a comparison. -/
def Event.isComparing : Event → Bool
  | .question _ _ | .comparison _ => true
  | _ => false

/-- No event belongs to both. -/
theorem Event.not_isComparing (ev : Event) (h : ev.isReading = true) : ev.isComparing = false := by
  cases ev <;> first | rfl | cases h

/-- No event of a kind is among some events. -/
def Without (kind : Event → Bool) (events : List Event) : Prop := ∀ ev ∈ events, kind ev = false

theorem Without.append {kind : Event → Bool} {es fs : List Event} (hes : Without kind es)
    (hfs : Without kind fs) : Without kind (es ++ fs) :=
  List.forall_mem_append.mpr ⟨hes, hfs⟩

/-- Without readings none is attempted. -/
theorem Without.attempts_eq_nil {events : List Event} (h : Without Event.isReading events) :
    attempts events = [] := by
  refine List.filterMap_eq_nil_iff.mpr (fun ev hev => ?_)
  cases ev with
  | attempt position field => cases h _ hev
  | _ => rfl

/-! ## §4. What following an agenda does. -/

namespace DueReading

@[simp]
theorem outcome_take (d : DueReading σ) (st : σ) : d.take.outcome st = d.outcome st :=
  readOne_outcome _ _ _ _ _

theorem attempts_take (d : DueReading σ) (st : σ) : attempts (d.take.events st) = [d.place] := by
  unfold take
  rw [readOne_events]
  exact congrArg (d.place :: ·) (attempts_access _)

/-- Taking a reading leaves events of readings only. -/
theorem take_without {kind : Event → Bool} (hkind : ∀ ev, ev.isReading = true → kind ev = false)
    (d : DueReading σ) (st : σ) : Without kind (d.take.events st) := by
  unfold take
  rw [readOne_events]
  refine List.forall_mem_cons.mpr ⟨hkind _ rfl, fun ev hev => ?_⟩
  obtain ⟨a, _, rfl⟩ := List.mem_map.mp hev
  exact hkind _ rfl

end DueReading

/-- The readings `done` of an agenda succeed from a state on, and the next one, `d`,
fails. -/
structure StopsAt (ds : List (DueReading σ)) (st : σ) (done : List (DueReading σ))
    (d : DueReading σ) (fault : Fault) : Prop where
  due : ∃ rest, ds = done ++ d :: rest
  succeed : (follow done).outcome st = .ok ()
  fails : d.outcome ((follow done).final st) = .error fault

/-- Following an agenda compares nothing. -/
theorem follow_without : ∀ (ds : List (DueReading σ)) (st : σ),
    Without Event.isComparing ((follow ds).events st)
  | [], _ => List.forall_mem_nil _
  | d :: ds, st => by
      unfold follow
      rw [Run.events_bind]
      refine (d.take_without Event.not_isComparing st).append ?_
      cases d.take.outcome st with
      | error fault => exact List.forall_mem_nil _
      | ok v => exact follow_without ds _

/-- **An agenda that is followed to its end was attempted reading by reading.** -/
theorem attempts_follow : ∀ {ds : List (DueReading σ)} {st : σ},
    (follow ds).outcome st = .ok () → attempts ((follow ds).events st) = ds.map DueReading.place
  | [], _, _ => rfl
  | d :: ds, st, h => by
      unfold follow at h ⊢
      obtain ⟨v, hv, h⟩ := Run.outcome_bind_eq_ok h
      rw [Run.events_bind, hv, attempts_append, d.attempts_take]
      show [d.place] ++ attempts ((follow ds).events (d.take.final st)) = _
      rw [attempts_follow h]
      rfl

/-- **An agenda with a reading that fails ends with it.** -/
theorem follow_of_stopsAt {ds done : List (DueReading σ)} {st : σ} {d : DueReading σ}
    {fault : Fault} (h : StopsAt ds st done d fault) :
    (follow ds).outcome st = .error fault
      ∧ attempts ((follow ds).events st) = (done ++ [d]).map DueReading.place := by
  obtain ⟨⟨rest, rfl⟩, succeed, fails⟩ := h
  have last : ∀ st', d.outcome st' = .error fault →
      (follow (d :: rest)).outcome st' = .error fault
        ∧ attempts ((follow (d :: rest)).events st') = [d.place] := by
    intro st' fails
    refine ⟨Run.outcome_bind_error (by rwa [d.outcome_take]) _, ?_⟩
    unfold follow
    rw [Run.events_bind, d.outcome_take, fails, List.append_nil, d.attempts_take]
  obtain ⟨failed, attempted⟩ := last _ fails
  rw [follow_append]
  constructor
  · rw [Run.outcome_bind_ok succeed, failed]
  · rw [Run.events_bind, succeed, attempts_append, attempts_follow succeed, attempted,
      List.map_append]
    rfl

/-- A fault in following an agenda is that of the reading it stops at. -/
theorem exists_stopsAt {fault : Fault} : ∀ {ds : List (DueReading σ)} {st : σ},
    (follow ds).outcome st = .error fault → ∃ done d, StopsAt ds st done d fault
  | [], _, h => nomatch h
  | d :: ds, st, h => by
      cases hd : d.outcome st with
      | error e =>
          have failed : (follow (d :: ds)).outcome st = .error e :=
            Run.outcome_bind_error (by rwa [d.outcome_take]) _
          rw [failed] at h
          obtain rfl := Except.error.inj h
          exact ⟨[], d, ⟨ds, rfl⟩, rfl, hd⟩
      | ok v =>
          -- the rest of the agenda is followed from where this reading ends
          have taken : d.take.outcome st = .ok v := by rw [d.outcome_take, hd]
          have onwards : ∀ ds' : List (DueReading σ), (follow (d :: ds')).outcome st
                = (follow ds').outcome (d.take.final st)
              ∧ (follow (d :: ds')).final st = (follow ds').final (d.take.final st) :=
            fun _ => ⟨Run.outcome_bind_ok taken _, Run.final_bind_ok taken _⟩
          rw [(onwards ds).1] at h
          obtain ⟨done, d', ⟨rest, rfl⟩, succeed, fails⟩ := exists_stopsAt h
          refine ⟨d :: done, d', ⟨rest, rfl⟩, ?_, ?_⟩
          · rw [(onwards done).1, succeed]
          · rw [(onwards done).2, fails]

/-- An agenda is followed to its end or stops at a reading that fails. -/
theorem followed_or_stopsAt (ds : List (DueReading σ)) (st : σ) :
    (follow ds).outcome st = .ok () ∨ ∃ done d fault, StopsAt ds st done d fault := by
  cases h : (follow ds).outcome st with
  | ok u => exact .inl rfl
  | error fault =>
      obtain ⟨done, d, stops⟩ := exists_stopsAt h
      exact .inr ⟨done, d, fault, stops⟩

/-! ## §5. Where the readings take place. -/

/-- Some fields at each of the first positions, position after position. -/
def places (positions : List Nat) (fields : List String) : List (Nat × String) :=
  positions.flatMap (fun i => fields.map (fun f => (i, f)))

theorem mem_places {positions : List Nat} {fields : List String} {x : Nat × String} :
    x ∈ places positions fields ↔ x.1 ∈ positions ∧ x.2 ∈ fields := by
  unfold places
  rw [List.mem_flatMap]
  constructor
  · rintro ⟨i, hi, hx⟩
    obtain ⟨f, hf, rfl⟩ := List.mem_map.mp hx
    exact ⟨hi, hf⟩
  · exact fun h => ⟨x.1, h.1, List.mem_map.mpr ⟨x.2, h.2, rfl⟩⟩

/-- **The agenda has every distinct field of every record, in order.** -/
theorem map_place_agenda (accessors : List (String × Accessor σ)) :
    ∀ (position : Nat) (records : List Record),
      (agenda accessors position records).map DueReading.place
        = places (List.range' position records.length) (accessors.map Prod.fst)
  | _, [] => rfl
  | position, r :: records => by
      unfold agenda
      rw [List.map_append, map_place_agenda accessors (position + 1) records, recordAgenda,
        List.map_map, List.length_cons, List.range'_succ]
      unfold places
      rw [List.flatMap_cons, List.map_map]
      rfl

/-- Which fields are distinct is not changed by leaving some of them out. -/
theorem distinct_filter (p : String → Bool) :
    ∀ fields : List String, distinct (fields.filter p) = (distinct fields).filter p
  | [] => rfl
  | f :: fields => by
      cases hf : p f with
      | true =>
          rw [List.filter_cons_of_pos hf]
          unfold distinct
          rw [distinct_filter p fields, List.filter_cons_of_pos hf, List.filter_filter,
            List.filter_filter]
          exact congrArg (f :: ·) (List.filter_congr (fun g _ => Bool.and_comm _ _))
      | false =>
          have left : ¬ p f = true := by rw [hf]; exact Bool.false_ne_true
          rw [List.filter_cons_of_neg left, distinct_filter p fields]
          conv => rhs; unfold distinct
          rw [List.filter_cons_of_neg left, List.filter_filter]
          -- what is kept is different from `f` anyway
          refine List.filter_congr (fun g _ => ?_)
          by_cases hg : g = f
          · rw [hg, hf]
            rfl
          · rw [bne_iff_ne.mpr hg, Bool.and_true]

/-- The distinct fields are the first occurrences of all fields. -/
theorem distinct_eq_eraseDups : ∀ fields : List String, distinct fields = fields.eraseDups
  | [] => rfl
  | f :: fields => by
      rw [List.eraseDups_cons, ← distinct_eq_eraseDups (fields.filter fun g => !g == f),
        distinct_filter]
      rfl
  termination_by fields => fields.length
  decreasing_by exact Nat.lt_succ_of_le (List.length_filter_le _ _)

theorem nodup_eraseDups (fields : List String) : fields.eraseDups.Nodup := by
  rw [← distinct_eq_eraseDups]
  induction fields with
  | nil => exact List.nodup_nil
  | cons f fields ih =>
      refine List.nodup_cons.mpr ⟨fun h => ?_, ih.filter _⟩
      have apart := (List.mem_filter.mp h).2
      rw [bne_self_eq_false] at apart
      cases apart

/-- There is one accessor for each distinct field. -/
theorem map_fst_forFields (extractors : Extractors σ) (fields : List String) :
    (Accessor.forFields extractors fields).map Prod.fst = fields.eraseDups := by
  unfold Accessor.forFields
  rw [List.map_map, ← distinct_eq_eraseDups]
  exact List.map_id' _

/-- Every reading is due once. -/
theorem nodup_places {positions : List Nat} {fields : List String} (hpositions : positions.Nodup)
    (hfields : fields.Nodup) : (places positions fields).Nodup := by
  refine List.nodup_flatMap.mpr ⟨fun i _ => hfields.map (fun f g h => congrArg Prod.snd h), ?_⟩
  refine hpositions.imp (fun {i j} hij => ?_)
  intro p hp hp'
  obtain ⟨f, _, rfl⟩ := List.mem_map.mp hp
  obtain ⟨g, _, same⟩ := List.mem_map.mp hp'
  exact hij (congrArg Prod.fst same).symm

end OrderBy
