/-
  OrderBy.Proofs.Order.Turning
  ────────────────────────────
  **FLIPPED DIRECTIONS, EXCHANGED ROWS AND THE REVERSED RESULT ARE ONE THING.**

  There are three ways to turn the comparison of two rows round:

      flip every direction     threeWayRows (ds.map flip) as bs
      exchange the rows        threeWayRows ds bs as
      reverse the result       less ↔ greater, and a tie stays

  The first two are one computation, on all values and rows of all lengths: the same
  questions are asked in the same order and the same fault ends them, because a descending
  position is an exchanged one.  The third asks other questions, but on proper values it
  comes to the same: one side is refused exactly if the other is, and otherwise each
  result is the reverse of the other.
-/
import OrderBy.Proofs.Order.Exchange

namespace OrderBy

/-! ## §1. Flipped directions. -/

/-- A position under the other direction is the position with its operands exchanged. -/
@[simp]
theorem Direction.threeWay_flip (d : Direction) (a b : Value) :
    d.flip.threeWay a b = d.threeWay b a := by
  cases d <;> rfl

/-- Rows under the other directions are exchanged rows.  The recursion stops with the
shortest of the three sequences, which is not changed by an exchange. -/
theorem threeWayRows_flip (ds : List Direction) (as bs : List Value) :
    threeWayRows (ds.map Direction.flip) as bs = threeWayRows ds bs as := by
  induction ds generalizing as bs with
  | nil => rfl
  | cons d ds ih =>
      cases as with
      | nil => cases bs <;> rfl
      | cons a as =>
          cases bs with
          | nil => rfl
          | cons b bs =>
              rw [List.map_cons]
              unfold threeWayRows
              rw [Direction.threeWay_flip, ih]

/-! ## §2. Refusals. -/

/-- The comparison is refused: two values have no order. -/
def Traced.Refuses {ω α : Type} (t : Traced ω α) : Prop :=
  ∃ question left right, t.outcome = .error (.incomparable question left right)

variable {t u : Traced Comparison Ordering}

/-- Of opposed comparisons both are refused or neither is. -/
theorem OpposedOutcomes.refuses_iff (h : OpposedOutcomes t.outcome u.outcome) :
    t.Refuses ↔ u.Refuses := by
  unfold Traced.Refuses
  generalize t.outcome = forth, u.outcome = back at h ⊢
  cases h with
  | decided o =>
      constructor
      · rintro ⟨_, _, _, refused⟩
        cases refused
      · rintro ⟨_, _, _, refused⟩
        cases refused
  | refused left right =>
      constructor
      · intro _
        exact ⟨.less, right, left, rfl⟩
      · intro _
        exact ⟨.less, left, right, rfl⟩

/-- If they are not refused, they have results, of which each is the reverse of the other. -/
theorem OpposedOutcomes.decided_of_not_refuses (h : OpposedOutcomes t.outcome u.outcome)
    (settled : ¬ t.Refuses) : ∃ o, t.outcome = .ok o ∧ u.outcome = .ok o.swap := by
  unfold Traced.Refuses at settled
  generalize t.outcome = forth, u.outcome = back at h settled ⊢
  cases h with
  | decided o => exact ⟨o, rfl, rfl⟩
  | refused left right => exact absurd ⟨_, _, _, rfl⟩ settled

/-! ## §3. Turning a comparison round. -/

/-- **Flipping the directions, exchanging the rows and reversing the result agree.**

With flipped directions the comparison is that of the exchanged rows, its questions and
its fault included, whatever the values and the lengths are.  If all values are proper,
it is refused for the rows one way round exactly if it is the other way round, and
otherwise it returns both ways, with opposite results. -/
theorem threeWayRows_turned (ds : List Direction) (as bs : List Value) :
    threeWayRows (ds.map Direction.flip) as bs = threeWayRows ds bs as
      ∧ ((∀ a ∈ as, a.isProper = true) → (∀ b ∈ bs, b.isProper = true) →
          ((threeWayRows ds as bs).Refuses ↔ (threeWayRows ds bs as).Refuses)
            ∧ (¬ (threeWayRows ds as bs).Refuses →
                ∃ o, (threeWayRows ds as bs).outcome = .ok o
                  ∧ (threeWayRows ds bs as).outcome = .ok o.swap)) := by
  refine ⟨threeWayRows_flip ds as bs, ?_⟩
  intro has hbs
  have opposed := threeWayRows_opposed ds has hbs
  exact ⟨opposed.refuses_iff, opposed.decided_of_not_refuses⟩

/-- Lists with two different values that are not a number, sets of which neither includes
the other, a number in a tuple, and one value more than the other rows have. -/
def brittleRow : List Value :=
  [.list [.text "x", .float (.nan ⟨0, 0⟩)], .set [.tuple [.int 1]],
    .tuple [.dict [(.null, .list [])], .float (.infinite true)], .bytes [0]]

/-- A row that ties with it twice and decides at the third position. -/
def brittleRow' : List Value :=
  [.list [.text "x", .float (.nan ⟨1, 0⟩)], .set [.tuple [.int 2]],
    .tuple [.dict [(.null, .list [])], .bool true]]

/-- A row that ties with the first one twice as well, and then has no order with it. -/
def brittleRow'' : List Value :=
  [.list [.text "x", .float (.nan ⟨2, 0⟩)], .set [.tuple [.int 3]], .tuple [.int 0]]

/-- Where there is no total order, comparing still can be turned round: the first two rows
are greater one way and less the other, and the first and the last are refused both ways.
Two probes of which one fails ask the same questions under flipped directions. -/
theorem threeWayRows_turned_brittle :
    ((threeWayRows [.ascending, .descending, .descending] brittleRow brittleRow').outcome
          = .ok .gt
        ∧ (threeWayRows [.ascending, .descending, .descending] brittleRow' brittleRow).outcome
          = .ok .lt)
      ∧ (threeWayRows [.ascending, .descending, .descending] brittleRow brittleRow'').Refuses
      ∧ (threeWayRows [.ascending, .descending, .descending] brittleRow'' brittleRow).Refuses
      ∧ threeWayRows [.descending, .ascending]
          [.null, .probe ⟨0, 0⟩ "l" (.int 1) (some ⟨"ValueError", "no"⟩)]
          [.null, .probe ⟨1, 0⟩ "r" (.int 2) none]
        = threeWayRows [.ascending, .descending]
          [.null, .probe ⟨1, 0⟩ "r" (.int 2) none]
          [.null, .probe ⟨0, 0⟩ "l" (.int 1) (some ⟨"ValueError", "no"⟩)] := by
  have proper : ∀ v ∈ brittleRow, v.isProper = true := by decide
  have proper' : ∀ v ∈ brittleRow', v.isProper = true := by decide
  have proper'' : ∀ v ∈ brittleRow'', v.isProper = true := by decide
  have greater : (threeWayRows [.ascending, .descending, .descending] brittleRow
      brittleRow').outcome = .ok .gt := rfl
  have refuses : (threeWayRows [.ascending, .descending, .descending] brittleRow
      brittleRow'').Refuses := ⟨.less, "int", "dict", rfl⟩
  refine ⟨⟨greater, ?_⟩, refuses, ?_, ?_⟩
  · have settled : ¬ (threeWayRows [.ascending, .descending, .descending] brittleRow
        brittleRow').Refuses := by
      rintro ⟨_, _, _, refused⟩
      rw [greater] at refused
      cases refused
    obtain ⟨o, forth, back⟩ :=
      ((threeWayRows_turned _ brittleRow brittleRow').2 proper proper').2 settled
    rw [greater] at forth
    obtain rfl := Except.ok.inj forth
    exact back
  · exact ((threeWayRows_turned _ brittleRow brittleRow'').2 proper proper'').1.mp refuses
  · exact (threeWayRows_turned [.ascending, .descending] _ _).1

end OrderBy
