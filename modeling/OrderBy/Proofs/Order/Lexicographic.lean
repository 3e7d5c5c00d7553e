/-
  OrderBy.Proofs.Order.Lexicographic
  ──────────────────────────────────
  **A ROW IS COMPARED PART BY PART, AND A LATER PART ONLY ON A TIE.**

  One comparison after another, the second only if the first ties, is an operation on
  comparisons with their events and faults: associative, with the comparison that ties as
  its unit.  The comparison of rows is that operation over their positions, and so it
  can be cut anywhere:

      threeWayRows (ds ++ ds')  =  onTie (threeWayRows ds) (threeWayRows ds')

  What does not tie is not followed by anything, be it a result or a fault.
-/
import OrderBy.Proofs.Outcome
import OrderBy.KeyOrder

namespace OrderBy

/-! ## §1. One comparison after another. -/

/-- Compare, and go on with another comparison on a tie. -/
def onTie (t u : Traced Comparison Ordering) : Traced Comparison Ordering := do
  match ← t with
  | .eq => u
  | decided => pure decided

/-- A comparison that does not tie has the last word. -/
theorem onTie_of_not_tie {t : Traced Comparison Ordering} (h : t.outcome ≠ .ok .eq)
    (u : Traced Comparison Ordering) : onTie t u = t := by
  obtain ⟨events, outcome⟩ := t
  unfold onTie
  match outcome, h with
  | .error fault, _ => rfl
  | .ok .lt, _ => exact congrArg (Traced.mk · _) (List.append_nil events)
  | .ok .gt, _ => exact congrArg (Traced.mk · _) (List.append_nil events)

/-- A tie is followed by the other comparison. -/
theorem onTie_of_tie {t : Traced Comparison Ordering} (h : t.outcome = .ok .eq)
    (u : Traced Comparison Ordering) : onTie t u = ⟨t.events ++ u.events, u.outcome⟩ := by
  unfold onTie
  rw [Traced.bind_ok h]

/-- After a comparison that always ties, only the other one counts. -/
theorem pure_onTie (u : Traced Comparison Ordering) : onTie (pure .eq) u = u :=
  onTie_of_tie rfl u

theorem onTie_assoc (t u v : Traced Comparison Ordering) :
    onTie (onTie t u) v = onTie t (onTie u v) := by
  unfold onTie
  rw [bind_assoc]
  refine bind_congr fun o => ?_
  cases o <;> rfl

/-! ## §2. Rows in parts. -/

/-- A row is compared at its first position and, on a tie, at the others. -/
theorem threeWayRows_cons (d : Direction) (ds : List Direction) (a b : Value)
    (as bs : List Value) :
    threeWayRows (d :: ds) (a :: as) (b :: bs) = onTie (d.threeWay a b) (threeWayRows ds as bs) :=
  rfl

/-- **Rows are compared in parts**, the later one on a tie of the earlier. -/
theorem threeWayRows_append {ds ds' : List Direction} {as bs as' bs' : List Value}
    (has : as.length = ds.length) (hbs : bs.length = ds.length) :
    threeWayRows (ds ++ ds') (as ++ as') (bs ++ bs')
      = onTie (threeWayRows ds as bs) (threeWayRows ds' as' bs') := by
  induction ds generalizing as bs with
  | nil =>
      obtain rfl := List.length_eq_zero_iff.mp has
      obtain rfl := List.length_eq_zero_iff.mp hbs
      exact (pure_onTie _).symm
  | cons d ds ih =>
      obtain ⟨a, as, rfl⟩ := List.exists_cons_of_length_eq_add_one has
      obtain ⟨b, bs, rfl⟩ := List.exists_cons_of_length_eq_add_one hbs
      rw [List.cons_append, List.cons_append, List.cons_append, threeWayRows_cons,
        threeWayRows_cons, onTie_assoc, ih (Nat.succ.inj has) (Nat.succ.inj hbs)]

end OrderBy
