/-
  OrderBy.Proofs.Faults
  ─────────────────────
  **ONLY READING AN EXPRESSION CAN FIND IT MALFORMED.**

  Each phase of a sort has its own faults:

      listing    a source that cannot be iterated over
      reading    a name that is missing from a record
      comparing  values that have no order, and what a probe brings up

  Only the faults of the first phase, in which the expression is read, are verdicts on
  the expression, unless an extractor passes such a verdict on.  Failing only with
  faults of some kind is passed on by sequencing; of questions about values it is
  proved by induction over the left value.
-/
import OrderBy.Proofs.Order.Sameness
import OrderBy.Proofs.Reading.Alteration
import OrderBy.Proofs.Reading.Serial

namespace OrderBy

variable {σ ω ω' α β : Type} {P : Fault → Prop}

/-! ## §1. Failing only with some faults. -/

/-- A computation that fails, if at all, with a fault of some kind. -/
def Traced.FailsOnly (P : Fault → Prop) (t : Traced ω α) : Prop :=
  ∀ fault, t.outcome = .error fault → P fault

namespace Traced.FailsOnly

theorem ok {t : Traced ω α} {a : α} (h : t.outcome = .ok a) : t.FailsOnly P := by
  intro fault hfault
  rw [h] at hfault
  cases hfault

theorem error {t : Traced ω α} {fault : Fault} (h : t.outcome = .error fault) (hP : P fault) :
    t.FailsOnly P := by
  intro fault' hfault
  rw [h] at hfault
  exact Except.error.inj hfault ▸ hP

theorem mono {Q : Fault → Prop} {t : Traced ω α} (h : t.FailsOnly P) (k : ∀ fault, P fault → Q fault) :
    t.FailsOnly Q :=
  fun fault hfault => k fault (h fault hfault)

theorem bind {t : Traced ω α} {f : α → Traced ω β} (h : t.FailsOnly P)
    (k : ∀ a, (f a).FailsOnly P) : (t >>= f).FailsOnly P := by
  intro fault hfault
  rw [outcome_bind] at hfault
  cases ht : t.outcome with
  | error fault' =>
      rw [ht] at hfault
      obtain rfl : fault' = fault := Except.error.inj hfault
      exact h fault' ht
  | ok a =>
      rw [ht] at hfault
      exact k a fault hfault

theorem map (g : α → β) {t : Traced ω α} (h : t.FailsOnly P) : (g <$> t).FailsOnly P := by
  rw [← bind_pure_comp]
  exact h.bind fun _ => .ok rfl

end Traced.FailsOnly

/-- A run that fails, from whatever state on, with a fault of some kind if at all. -/
def Run.FailsOnly (P : Fault → Prop) (run : Run σ ω α) : Prop :=
  ∀ st fault, run.outcome st = .error fault → P fault

namespace Run.FailsOnly

theorem pure (a : α) : Run.FailsOnly P (Pure.pure a : Run σ ω α) := fun _ _ h => nomatch h

theorem lift {t : Traced ω α} (h : t.FailsOnly P) : Run.FailsOnly P (Run.lift t : Run σ ω α) :=
  fun _ => h

theorem mono {Q : Fault → Prop} {run : Run σ ω α} (h : run.FailsOnly P)
    (k : ∀ fault, P fault → Q fault) : run.FailsOnly Q :=
  fun st fault hfault => k fault (h st fault hfault)

theorem bind {run : Run σ ω α} {f : α → Run σ ω β} (h : run.FailsOnly P)
    (k : ∀ a, (f a).FailsOnly P) : (run >>= f).FailsOnly P := by
  intro st fault hfault
  cases ho : run.outcome st with
  | error fault' =>
      rw [Run.outcome_bind_error ho] at hfault
      exact Except.error.inj hfault ▸ h st fault' ho
  | ok a =>
      rw [Run.outcome_bind_ok ho] at hfault
      exact k a _ fault hfault

end Run.FailsOnly

/-! ## §2. The faults of comparing. -/

/-- The faults of comparing: values have no order, or a probe brings something up. -/
inductive Fault.OfComparing : Fault → Prop where
  | incomparable (question : Question) (left right : String) :
      OfComparing (.incomparable question left right)
  | raised (r : Raised) : OfComparing (.raised r)

namespace Value

open Fault (OfComparing)

theorem askFlat_failsOnly (q : Question) (a b : Value) : (askFlat q a b).FailsOnly OfComparing := by
  have refused : (Traced.fail (.incomparable q a.typeName b.typeName)
      : Traced Comparison Bool).FailsOnly OfComparing := .error rfl (.incomparable q _ _)
  unfold askFlat
  split
  · exact .ok rfl
  · split
    · cases q
      all_goals
        dsimp only
        split
        · exact .ok rfl
        · exact refused
    · exact refused

/-- Sequences are asked about no other way than their items. -/
theorem askItems_failsOnly (q : Question) :
    ∀ {xs : List Value}, (∀ x ∈ xs, ∀ y, (ask q x y).FailsOnly OfComparing) →
      ∀ ys, (askItems q xs ys).FailsOnly OfComparing
  | [], _, _ => .ok rfl
  | _ :: _, _, [] => .ok rfl
  | x :: xs, h, y :: ys => by
      obtain ⟨hx, hxs⟩ := List.forall_mem_cons.mp h
      show (if same x y then askItems q xs ys else ask q x y).FailsOnly OfComparing
      split
      · exact askItems_failsOnly q hxs ys
      · exact hx y

/-- **A question about two values has an answer or one of these faults.** -/
theorem ask_failsOnly (q : Question) (a b : Value) : (ask q a b).FailsOnly OfComparing := by
  induction a using inductionOn generalizing b with
  | flat a flat =>
      cases a <;> cases flat <;> cases b <;> exact askFlat_failsOnly q _ _
  | list xs ih =>
      cases b <;> first
        | exact askItems_failsOnly q ih _
        | exact askFlat_failsOnly q _ _
  | tuple xs ih =>
      cases b <;> first
        | exact askItems_failsOnly q ih _
        | exact askFlat_failsOnly q _ _
  | set xs _ => cases b <;> exact askFlat_failsOnly q _ _
  | dict es _ => cases b <;> exact askFlat_failsOnly q _ _
  | probe id label a raises ih =>
      cases b with
      | probe id' label' b raises' =>
          -- the question is recorded, and then refused or passed on
          cases raises with
          | some r => exact .error rfl (.raised r)
          | none => exact Traced.FailsOnly.bind (.ok rfl) fun _ => ih b
      | _ => exact askFlat_failsOnly q _ _

theorem threeWay_failsOnly (a b : Value) : (Value.threeWay a b).FailsOnly OfComparing := by
  have recorded : ∀ q, (askRecorded q a b).FailsOnly OfComparing := fun q =>
    Traced.FailsOnly.bind (.ok rfl) fun _ => ask_failsOnly q a b
  unfold Value.threeWay
  refine (recorded .less).bind fun less => ?_
  cases less with
  | true => exact .ok rfl
  | false =>
      refine (recorded .greater).bind fun greater => ?_
      cases greater <;> exact .ok rfl

end Value

open Fault (OfComparing)

theorem threeWayRows_failsOnly : ∀ (ds : List Direction) (as bs : List Value),
    (threeWayRows ds as bs).FailsOnly OfComparing
  | [], _, _ => .ok rfl
  | _ :: _, [], _ => .ok rfl
  | _ :: _, _ :: _, [] => .ok rfl
  | d :: ds, a :: as, b :: bs => by
      have first : (d.threeWay a b).FailsOnly OfComparing := by
        cases d with
        | ascending => exact Value.threeWay_failsOnly a b
        | descending => exact Value.threeWay_failsOnly b a
      unfold threeWayRows
      refine first.bind fun o => ?_
      cases o with
      | eq => exact threeWayRows_failsOnly ds as bs
      | lt => exact .ok rfl
      | gt => exact .ok rfl

/-- The simulation that says what a computation fails with. -/
def BinaryInsertion.Simulation.failsOnly (P : Fault → Prop) : Simulation (Traced ω) Id where
  rel Q t _ := t.FailsOnly P ∧ ∀ b, t.outcome = .ok b → Q b
  rel_pure h := ⟨.ok rfl, fun _ hb => Except.ok.inj hb ▸ h⟩
  rel_bind {_ _ _ _ t _ f _} h k := by
    obtain ⟨fails, result⟩ := h
    cases ht : t.outcome with
    | error fault =>
        rw [Traced.bind_error ht]
        exact ⟨.error rfl (fails fault ht), fun _ hb => nomatch hb⟩
    | ok b =>
        rw [Traced.bind_ok ht]
        exact k b (result b ht)
  rel_mono h k := ⟨h.1, fun b hb => k b (h.2 b hb)⟩

/-- **A sort fails with nothing but what its questions fail with**, of which each is about a
later item and an earlier one. -/
theorem BinaryInsertion.sort_failsOnly {α : Type} {P : Fault → Prop}
    {before : α → α → Traced ω Bool} {xs : List α}
    (h : xs.Pairwise (fun earlier later => (before later earlier).FailsOnly P)) :
    (BinaryInsertion.sort before xs).FailsOnly P := by
  have asks : xs.Pairwise ((BinaryInsertion.Simulation.failsOnly P).Asks before
      (fun _ _ => pure false)) := h.imp fun fails => ⟨fails, fun _ _ => trivial⟩
  exact ((BinaryInsertion.Simulation.failsOnly P).sort asks).1

/-- **A sort whose questions are all answered returns.** -/
theorem BinaryInsertion.exists_sorted {α : Type} {before : α → α → Traced ω Bool} {xs : List α}
    (h : xs.Pairwise (fun earlier later => ∃ answer, (before later earlier).outcome = .ok answer)) :
    ∃ out, (BinaryInsertion.sort before xs).outcome = .ok out := by
  have answered : xs.Pairwise (fun earlier later =>
      (before later earlier).FailsOnly (fun _ => False)) := by
    refine h.imp fun {earlier later} ok => ?_
    obtain ⟨answer, hanswer⟩ := ok
    exact .ok hanswer
  cases hout : (BinaryInsertion.sort before xs).outcome with
  | ok out => exact ⟨out, rfl⟩
  | error fault => exact (BinaryInsertion.sort_failsOnly answered fault hout).elim

/-- Comparing decorated records fails as comparing their rows does. -/
theorem before_failsOnly {P : Fault → Prop} {ds : List Direction} {x y : Decorated}
    (h : (threeWayRows ds x.key y.key).FailsOnly P) : (Decorated.before ds x y).FailsOnly P := by
  refine Traced.FailsOnly.bind (.ok rfl) fun _ => ?_
  show (keyBefore ds x.key y.key).FailsOnly P
  exact h.map (· == .lt)

/-- **Sorting decorated records fails with faults of comparing only.** -/
theorem sortDecorated_failsOnly (ds : List Direction) (xs : List Decorated) :
    (sortDecorated ds xs).FailsOnly OfComparing :=
  BinaryInsertion.sort_failsOnly (List.pairwise_of_forall fun x y =>
    before_failsOnly (threeWayRows_failsOnly ds y.key x.key))

/-! ## §3. Verdicts on expressions. -/

/-- Whether a fault is a verdict on an expression. -/
def Fault.isMalformed : Fault → Bool
  | .malformed _ _ => true
  | _ => false

/-- No verdict on an expression is passed. -/
abbrev Fault.NoVerdict (fault : Fault) : Prop := fault.isMalformed = false

theorem Fault.OfComparing.noVerdict {fault : Fault} (h : fault.OfComparing) : fault.NoVerdict := by
  cases h <;> rfl

/-- The faults of reading a record by its own rules: what a name stands for is missing. -/
inductive Fault.OfLookup : Fault → Prop where
  | missingKey (key : Value) : OfLookup (.missingKey key)
  | missingAttribute (typeName name : String) : OfLookup (.missingAttribute typeName name)
  | missingPart (name : Value) : OfLookup (.missingPart name)
  | nameNotText (typeName : String) : OfLookup (.attributeNameNotText typeName)

namespace Fault.OfLookup

theorem noVerdict {fault : Fault} (h : fault.OfLookup) : fault.NoVerdict := by
  cases h <;> rfl

/-- A lookup does not come upon the end of an iteration. -/
theorem endsIteration {fault : Fault} (h : fault.OfLookup) : fault.endsIteration = false := by
  cases h <;> rfl

end Fault.OfLookup

theorem Value.attributeOf_ofLookup {v name : Value} {fault : Fault}
    (h : v.attributeOf name = .error fault) : fault.OfLookup := by
  unfold attributeOf at h
  split at h
  all_goals try cases h
  all_goals try constructor
  -- what is left is the attribute of a direction that may name another one
  split at h
  · cases h
  · cases h
    constructor

/-- **A record that is read by its own rules lacks a name, or has a value.** -/
theorem Record.readField_failsOnly (r : Record) (f : String) :
    (r.readField f).FailsOnly Fault.OfLookup := by
  obtain ⟨id, body⟩ := r
  intro fault hfault
  cases body with
  | plain v =>
      cases v with
      | dict es =>
          rw [Record.readField_dict] at hfault
          split at hfault
          · cases hfault
          · exact Except.error.inj hfault ▸ .missingKey _
      | _ => exact Value.attributeOf_ofLookup hfault
  | object attributes =>
      rw [Record.readField_object] at hfault
      split at hfault
      · cases hfault
      · exact Except.error.inj hfault ▸ .missingAttribute _ _
  | mapping entries attributes =>
      rw [Record.readField_mapping] at hfault
      split at hfault
      · cases hfault
      · exact Except.error.inj hfault ▸ .missingKey _

/-- So a field reads that no extractor is registered for. -/
theorem forField_failsOnly {extractors : Extractors σ} {f : String}
    (h : extractors.lookup f = none) (r : Record) :
    Run.FailsOnly Fault.OfLookup ((Accessor.forField extractors f).read r) := by
  unfold Accessor.forField
  rw [h]
  exact .lift (r.readField_failsOnly f)

/-! ## §4. The phases of a sort. -/

/-- Reading one field fails as its accessor does. -/
theorem readOne_failsOnly {position : Nat} {r : Record} {f : String} {accessor : Accessor σ}
    (h : Run.FailsOnly P (accessor.read r)) : (readOne position r f accessor).FailsOnly P := by
  intro st fault hfault
  rw [readOne_outcome] at hfault
  exact h st fault hfault

theorem readFields_failsOnly {position : Nat} {r : Record} :
    ∀ {accessors : List (String × Accessor σ)},
      (∀ a ∈ accessors, Run.FailsOnly P (a.2.read r)) →
      (readFields position r accessors).FailsOnly P
  | [], _ => .pure _
  | (f, accessor) :: accessors, h => by
      obtain ⟨first, others⟩ := List.forall_mem_cons.mp h
      exact (readOne_failsOnly first).bind fun _ => (readFields_failsOnly others).bind fun _ => .pure _

theorem readSerially_failsOnly {accessors : List (String × Accessor σ)} :
    ∀ {position : Nat} {records : List Record},
      (∀ a ∈ accessors, ∀ r ∈ records, Run.FailsOnly P (a.2.read r)) →
      (readSerially accessors position records).FailsOnly P
  | _, [], _ => .pure _
  | _, r :: _, h =>
      (readFields_failsOnly fun a ha => h a ha r List.mem_cons_self).bind fun _ =>
        (readSerially_failsOnly fun a ha r' hr' => h a ha r' (List.mem_cons_of_mem r hr')).bind
          fun _ => .pure _

/-- **Serial decoration fails as one of the readings does.** -/
theorem decorate_failsOnly {schedule : List Nat} {fields : List String}
    {extractors : Extractors σ} {records : List Record}
    (h : ∀ f ∈ fields, ∀ r ∈ records, Run.FailsOnly P ((Accessor.forField extractors f).read r)) :
    (decorate false schedule fields extractors records).FailsOnly P := by
  rw [decorate_eq]
  refine Run.FailsOnly.bind ?_ fun _ => .pure _
  refine readSerially_failsOnly fun a ha r hr => ?_
  obtain ⟨f, hf, rfl⟩ := List.mem_map.mp ha
  exact h f ((mem_distinct f).mp hf) r hr

/-- A source that is not listed is not asked about expressions. -/
theorem Source.toList_noVerdict {source : Source} {fault : Fault}
    (h : source.toList = .error fault) : fault.NoVerdict := by
  cases source with
  | records rs => cases h
  | value v =>
      have h : plainRecords 0 <$> v.itemsOrFault = .error fault := h
      unfold Value.itemsOrFault at h
      cases hitems : v.items? with
      | some items =>
          rw [hitems] at h
          cases h
      | none =>
          rw [hitems] at h
          exact Except.error.inj h ▸ rfl

/-- **A serial sort passes no verdict on an expression that was read**, unless an accessor
does. -/
theorem Sorter.sort_failsOnly_noVerdict {s : Sorter} {criterion : Criterion} {e : Expression}
    {extractors : Extractors σ} (hread : (criterion.read s.parser).outcome = .ok e)
    (hserial : s.isConcurrent = .ok false)
    (hreads : ∀ f r, Run.FailsOnly Fault.NoVerdict ((Accessor.forField extractors f).read r))
    (schedule : List Nat) (source : Source) :
    (s.sort schedule source criterion extractors).FailsOnly Fault.NoVerdict := by
  unfold Sorter.sort
  rw [Sorter.sortKeyed_eq, map_bind]
  refine Run.FailsOnly.bind (.lift (.ok hread)) fun e' => ?_
  rw [← bind_pure_comp]
  refine Run.FailsOnly.bind ?_ fun _ => .pure _
  unfold Sorter.sortByKeys
  refine Run.FailsOnly.bind (.lift fun _ => Source.toList_noVerdict) fun records => ?_
  rw [hserial]
  show Run.FailsOnly _ ((pure false : Run σ Event Bool) >>= _)
  rw [pure_bind]
  refine Run.FailsOnly.bind (decorate_failsOnly fun f _ r _ => hreads f r) fun decorated => ?_
  refine Run.FailsOnly.bind (.lift ?_) fun sorted => ?_
  · exact (sortDecorated_failsOnly _ decorated).mono fun _ => Fault.OfComparing.noVerdict
  · exact Run.FailsOnly.bind (.lift (.ok rfl)) fun _ => .pure _

end OrderBy
