/-
  OrderBy.Proofs.Expression.Writing
  ─────────────────────────────────
  **WHICH VALUES A MESSAGE CAN SHOW.**

  What is written of a value are its integers, at any depth, beside other things; a
  probe is written by its label alone.  A value can be written iff each of these
  integers has no more digits than may be written, so a text always can.
-/
import OrderBy.Fault.Message
import OrderBy.Proofs.Order.Sameness

namespace OrderBy

namespace Value

/-! ## §1. What is written. -/

/-- An integer is written with a value. -/
inductive Shows (n : Int) : Value → Prop where
  | int : Shows n (.int n)
  | list {xs : List Value} {x : Value} : x ∈ xs → Shows n x → Shows n (.list xs)
  | tuple {xs : List Value} {x : Value} : x ∈ xs → Shows n x → Shows n (.tuple xs)
  | set {xs : List Value} {x : Value} : x ∈ xs → Shows n x → Shows n (.set xs)
  | dictKey {es : List (Value × Value)} {e : Value × Value} : e ∈ es → Shows n e.1 →
      Shows n (.dict es)
  | dictValue {es : List (Value × Value)} {e : Value × Value} : e ∈ es → Shows n e.2 →
      Shows n (.dict es)

/-- Every integer that is written with a value has few enough digits. -/
def Writable (v : Value) : Prop := ∀ n, v.Shows n → n.natAbs < Nat.pow 10 writtenDigits

/-! ## §2. The test. -/

theorem areWritable_iff : ∀ {xs : List Value},
    areWritable xs = true ↔ ∀ x ∈ xs, x.isWritable = true
  | [] => iff_of_true rfl (List.forall_mem_nil _)
  | x :: xs => by
      rw [List.forall_mem_cons, ← areWritable_iff, ← Bool.and_eq_true]
      rfl

theorem areWritableEntries_iff : ∀ {es : List (Value × Value)},
    areWritableEntries es = true ↔ ∀ e ∈ es, e.1.isWritable = true ∧ e.2.isWritable = true
  | [] => iff_of_true rfl (List.forall_mem_nil _)
  | (k, v) :: es => by
      rw [List.forall_mem_cons, ← areWritableEntries_iff, ← Bool.and_eq_true, ← Bool.and_eq_true]
      rfl

theorem isWritable_int {n : Int} :
    (int n).isWritable = true ↔ n.natAbs < Nat.pow 10 writtenDigits := by
  rw [isWritable, isWritableInt, decide_eq_true_iff]

/-- **The test finds the values that can be written.** -/
theorem isWritable_iff {v : Value} : v.isWritable = true ↔ v.Writable := by
  induction v using inductionOn with
  | flat v flat =>
      cases v with
      | int n =>
          rw [isWritable_int]
          constructor
          · rintro few m ⟨⟩
            exact few
          · exact fun h => h n .int
      | list _ | tuple _ | set _ | dict _ => cases flat
      | _ => exact iff_of_true rfl fun n shown => nomatch shown
  | list xs ih | tuple xs ih | set xs ih =>
      show areWritable xs = true ↔ _
      rw [areWritable_iff]
      constructor
      · rintro h n (_ | ⟨hx, shown⟩ | ⟨hx, shown⟩ | ⟨hx, shown⟩)
        exact (ih _ hx).mp (h _ hx) n shown
      · exact fun h x hx => (ih x hx).mpr fun n shown => h n (by constructor <;> assumption)
  | dict es ih =>
      show areWritableEntries es = true ↔ _
      rw [areWritableEntries_iff]
      constructor
      · intro h n shown
        cases shown with
        | dictKey he shown => exact (ih _ he).1.mp (h _ he).1 n shown
        | dictValue he shown => exact (ih _ he).2.mp (h _ he).2 n shown
      · exact fun h e he => ⟨(ih e he).1.mpr fun n shown => h n (.dictKey he shown),
          (ih e he).2.mpr fun n shown => h n (.dictValue he shown)⟩
  | probe id label v raises _ => exact iff_of_true rfl fun n shown => nomatch shown

/-- A text can be written. -/
theorem writable_of_text? {v : Value} {text : String} (h : v.text? = some text) :
    v.Writable := by
  cases v with
  | text _ | direction _ => exact fun n shown => nomatch shown
  | _ => cases h

end Value

/-! ## §3. Faults of malformed expressions. -/

theorem Fault.ofMalformed_of_writable {v : Value} (h : v.Writable) (reason : Reason) :
    Fault.ofMalformed v reason = .malformed v reason :=
  if_pos (Value.isWritable_iff.mpr h)

theorem Fault.ofMalformed_of_not_writable {v : Value} (h : ¬ v.Writable) (reason : Reason) :
    Fault.ofMalformed v reason = .tooManyDigits Value.writtenDigits :=
  if_neg fun test => h (Value.isWritable_iff.mp test)

end OrderBy
