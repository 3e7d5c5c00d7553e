/-
  OrderBy.Proofs.Order.ValueClass
  ───────────────────────────────
  **VALUES WITHOUT PARTS CAN BE COMPARED IFF THEY ARE OF ONE ORDERED CLASS.**

  Numbers, NaN among them, texts and bytes are classes whose members can all be compared
  with each other.  Everything else without parts, nothing for one, is not even ordered
  in itself; and a dictionary counts here too, since it is refused whatever is in it:

      number, text, bytes     both of them in one class   →   answered
      all other pairs                                     →   refused, naming both types

  Of values that are not all of one ordered class there is a first that fits no longer
  to those in front of it.
-/
import OrderBy.Fault.Message
import OrderBy.Proofs.Order.Exchange
import Mathlib.Data.Nat.Find

namespace OrderBy

/-! ## §1. Classes. -/

/-- The classes of values that are compared as a whole. -/
inductive ValueClass where
  | number
  | text
  | bytes
  /-- What has no order, not even in itself. -/
  | unorderable
  deriving DecidableEq

namespace Value

/-- The class of a value, if it is compared as a whole. -/
def class? : Value → Option ValueClass
  | bool _ | int _ | float _ => some .number
  | text _ | direction _ => some .text
  | bytes _ => some .bytes
  | null | dict _ | key _ | object _ _ => some .unorderable
  | list _ | tuple _ | set _ | probe _ _ _ _ => none

/-- Two values are of one class, and the class is ordered. -/
def SameClass (a b : Value) : Prop :=
  ∃ c, c ≠ .unorderable ∧ a.class? = some c ∧ b.class? = some c

theorem SameClass.symm {a b : Value} (h : SameClass a b) : SameClass b a := by
  obtain ⟨c, ordered, ha, hb⟩ := h
  exact ⟨c, ordered, hb, ha⟩

end Value

/-- The class of a scalar. -/
def Scalar.valueClass : Scalar → ValueClass
  | number _ => .number
  | text _ => .text
  | bytes _ => .bytes

/-- Scalars of one class, and no others, have an order. -/
theorem Scalar.less?_eq_none_iff {x y : Scalar} :
    x.less? y = none ↔ x.valueClass ≠ y.valueClass := by
  cases x <;> cases y <;> simp [Scalar.less?, Scalar.valueClass]

namespace Value

theorem class?_of_scalar {a : Value} {x : Scalar} (h : a.scalar? = some x) :
    a.class? = some x.valueClass := by
  cases a <;> cases h <;> rfl

/-- What is compared as a whole is a scalar or unorderable. -/
theorem exists_scalar {a : Value} {c : ValueClass} (h : a.class? = some c) :
    (∃ x, a.scalar? = some x ∧ x.valueClass = c) ∨ a.scalar? = none ∧ c = .unorderable := by
  cases a <;> cases h <;> first | exact .inl ⟨_, rfl, rfl⟩ | exact .inr ⟨rfl, rfl⟩

/-! ## §2. Questions. -/

/-- Values of one ordered class answer every question about each other. -/
theorem SameClass.ask {a b : Value} (h : SameClass a b) (q : Question) :
    ∃ answer, (a.ask q b).outcome = .ok answer := by
  obtain ⟨c, ordered, ha, hb⟩ := h
  rcases exists_scalar ha with ⟨x, hx, hc⟩ | ⟨_, hc⟩
  · rcases exists_scalar hb with ⟨y, hy, hd⟩ | ⟨_, hd⟩
    · have classes : x.valueClass = y.valueClass := hc.trans hd.symm
      cases hless : x.less? y with
      | none => exact absurd classes (Scalar.less?_eq_none_iff.mp hless)
      | some less =>
          cases hgreater : y.less? x with
          | none => exact absurd classes.symm (Scalar.less?_eq_none_iff.mp hgreater)
          | some greater => exact ⟨_, ask_of_scalar hx hy hless hgreater q⟩
    · exact absurd hd ordered
  · exact absurd hc ordered

/-- A question about what is unorderable is refused, on whichever side it stands. -/
theorem ask_of_no_scalar {a b : Value} {c d : ValueClass} (ha : a.class? = some c)
    (hb : b.class? = some d) (h : a.scalar? = none ∨ b.scalar? = none) (q : Question) :
    (a.ask q b).outcome = .error (.incomparable q a.typeName b.typeName) := by
  rcases h with h | h
  · cases a <;> cases h <;> cases ha <;> cases b <;> cases hb <;> rfl
  · cases b <;> cases h <;> cases hb <;> cases a <;> cases ha <;> rfl

/-- **Values that are not of one ordered class refuse every question about each other.** -/
theorem ask_of_not_sameClass {a b : Value} {c d : ValueClass} (ha : a.class? = some c)
    (hb : b.class? = some d) (h : ¬ SameClass a b) (q : Question) :
    (a.ask q b).outcome = .error (.incomparable q a.typeName b.typeName) := by
  cases hx : a.scalar? with
  | none => exact ask_of_no_scalar ha hb (.inl hx) q
  | some x =>
      cases hy : b.scalar? with
      | none => exact ask_of_no_scalar ha hb (.inr hy) q
      | some y =>
          refine ask_of_scalar_none hx hy (Scalar.less?_eq_none_iff.mpr fun classes => h ?_) q
          have ordered : x.valueClass ≠ .unorderable := by
            cases x <;> exact ValueClass.noConfusion
          refine ⟨x.valueClass, ordered, class?_of_scalar hx, ?_⟩
          rw [classes]
          exact class?_of_scalar hy

end Value

/-! ## §3. Comparing in a direction. -/

/-- How two values that have no order are refused in a direction: ascending with the type of
the first one in front, descending with that of the second one. -/
def Direction.refusal : Direction → Value → Value → Fault
  | ascending, a, b => .incomparable .less a.typeName b.typeName
  | descending, a, b => .incomparable .less b.typeName a.typeName

/-- The message of a refusal names the types in this order. -/
theorem Direction.refusal_message (d : Direction) (a b : Value) :
    (d.refusal a b).message? = some (match d with
      | ascending => "'<' not supported between instances of '" ++ a.typeName ++ "' and '"
          ++ b.typeName ++ "'"
      | descending => "'<' not supported between instances of '" ++ b.typeName ++ "' and '"
          ++ a.typeName ++ "'") := by
  cases d <;> rfl

theorem Value.SameClass.threeWay {a b : Value} (h : Value.SameClass a b) :
    ∃ o, (Value.threeWay a b).outcome = .ok o := by
  obtain ⟨less, hless⟩ := h.ask .less
  obtain ⟨greater, hgreater⟩ := h.ask .greater
  unfold Value.threeWay
  rw [Traced.outcome_bind, askRecorded_outcome, hless]
  cases less with
  | true => exact ⟨.lt, rfl⟩
  | false =>
      show ∃ o, (askRecorded .greater a b >>= _).outcome = .ok o
      rw [Traced.outcome_bind, askRecorded_outcome, hgreater]
      cases greater
      · exact ⟨.eq, rfl⟩
      · exact ⟨.gt, rfl⟩

/-- Values of one ordered class are compared in every direction … -/
theorem Value.SameClass.threeWay_direction {a b : Value} (h : Value.SameClass a b)
    (d : Direction) : ∃ o, (d.threeWay a b).outcome = .ok o := by
  cases d with
  | ascending => exact h.threeWay
  | descending => exact h.symm.threeWay

/-- … and others are refused. -/
theorem Direction.threeWay_of_not_sameClass (d : Direction) {a b : Value} {c c' : ValueClass}
    (ha : a.class? = some c) (hb : b.class? = some c') (h : ¬ Value.SameClass a b) :
    (d.threeWay a b).outcome = .error (d.refusal a b) := by
  cases d with
  | ascending => exact Value.threeWay_of_refused (Value.ask_of_not_sameClass ha hb h)
  | descending =>
      exact Value.threeWay_of_refused (Value.ask_of_not_sameClass hb ha fun h' => h h'.symm)

/-! ## §4. Lists of values. -/

/-- Values that are all of one ordered class. -/
def OneClass (vs : List Value) : Prop :=
  ∃ c, c ≠ .unorderable ∧ ∀ v ∈ vs, v.class? = some c

theorem OneClass.sameClass {vs : List Value} (h : OneClass vs) {a b : Value} (ha : a ∈ vs)
    (hb : b ∈ vs) : Value.SameClass a b := by
  obtain ⟨c, ordered, classes⟩ := h
  exact ⟨c, ordered, classes a ha, classes b hb⟩

/-- Where each value is of the class of the next one, all are of the class of the first. -/
theorem class_of_isChain {c : ValueClass} :
    ∀ {v : Value} {vs : List Value}, (v :: vs).IsChain Value.SameClass → v.class? = some c →
      ∀ w ∈ v :: vs, w.class? = some c
  | v, [], _, hv => by simpa using hv
  | v, w :: vs, h, hv => by
      obtain ⟨⟨d, _, hd, hw⟩, rest⟩ := List.isChain_cons_cons.mp h
      obtain rfl := Option.some.inj (hv.symm.trans hd)
      exact List.forall_mem_cons.mpr ⟨hv, class_of_isChain rest hw⟩

/-- **Two or more values are of one ordered class if every two neighbours are.** -/
theorem oneClass_of_isChain {vs : List Value} (size : 2 ≤ vs.length)
    (h : vs.IsChain Value.SameClass) : OneClass vs := by
  match vs, h with
  | v :: w :: vs, h =>
      obtain ⟨⟨c, ordered, hv, _⟩, _⟩ := List.isChain_cons_cons.mp h
      exact ⟨c, ordered, class_of_isChain h hv⟩

/-- The first value, after the very first, that is not of one ordered class with all of those
in front of it. -/
structure FirstMisfit (vs : List Value) (i : Nat) : Prop where
  pos : 1 ≤ i
  lt : i < vs.length
  misfit : ¬ OneClass (vs.take (i + 1))
  fitting : ∀ j, 1 ≤ j → j < i → OneClass (vs.take (j + 1))

/-- In front of the first misfit every two values are of one ordered class. -/
theorem FirstMisfit.sameClass {vs : List Value} {i : Nat} (h : FirstMisfit vs i) {p q : Nat}
    (hpq : p < q) (hqi : q < i) {a b : Value} (ha : vs[p]? = some a) (hb : vs[q]? = some b) :
    Value.SameClass a b := by
  have fitting := h.fitting q (by omega) hqi
  obtain ⟨_, rfl⟩ := List.getElem?_eq_some_iff.mp ha
  obtain ⟨_, rfl⟩ := List.getElem?_eq_some_iff.mp hb
  refine fitting.sameClass ?_ ?_ <;> exact List.mem_take_iff_getElem.mpr ⟨_, by omega, rfl⟩

/-- Values that are not all of one ordered class have a first misfit. -/
theorem exists_firstMisfit {vs : List Value} (size : 2 ≤ vs.length) (h : ¬ OneClass vs) :
    ∃ i, FirstMisfit vs i := by
  classical
  have last : 1 ≤ vs.length - 1 ∧ ¬ OneClass (vs.take (vs.length - 1 + 1)) := by
    rw [Nat.sub_add_cancel (by omega), List.take_length]
    exact ⟨by omega, h⟩
  have misfits : ∃ i, 1 ≤ i ∧ ¬ OneClass (vs.take (i + 1)) := ⟨_, last⟩
  have found := Nat.find_spec misfits
  have inside := Nat.find_min' misfits last
  refine ⟨Nat.find misfits, found.1, by omega, found.2, fun j hj hlt => ?_⟩
  by_contra misfit
  exact Nat.find_min misfits hlt ⟨hj, misfit⟩

end OrderBy
