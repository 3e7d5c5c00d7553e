/-
  OrderBy.Proofs.Sorting.ByPosition
  ─────────────────────────────────
  **RECORDS GO BY THEIR KEYS, AND BY THEIR POSITIONS WHERE KEYS TIE.**

  Where the rows of some records are compared without a fault and as by a total
  preorder, the sort gives the one list of them that is strictly ordered by

      first the comparison of keys, then the position in the input

  The position can decide because every question asks whether a later record
  comes STRICTLY before an earlier one: on a tie the earlier record stays in
  front, whatever the directions, and a first run that is reversed has no ties.
-/
import OrderBy.Sorter
import OrderBy.Proofs.Order.Row
import OrderBy.Proofs.Sorting.Adjacent

namespace OrderBy

open BinaryInsertion

/-! ## §1. Questions that are all answered. -/

/-- The simulation of computations without a fault by their results. -/
def BinaryInsertion.Simulation.answered (ω : Type) : Simulation (Traced ω) Id where
  rel Q t u := t.outcome = .ok (Id.run u) ∧ Q (Id.run u)
  rel_pure h := ⟨rfl, h⟩
  rel_bind h k := by
    obtain ⟨ok, hQ⟩ := h
    obtain ⟨ok', hS⟩ := k _ hQ
    refine ⟨?_, hS⟩
    rw [Traced.outcome_bind, ok]
    exact ok'
  rel_mono h k := ⟨h.1, k _ h.2⟩

/-- A sort all of whose questions are answered gives what the answers give. -/
theorem sort_of_answered {ω α : Type} {before : α → α → Traced ω Bool} {lt : α → α → Bool}
    {xs : List α}
    (h : xs.Pairwise (fun earlier later => (before later earlier).outcome = .ok (lt later earlier))) :
    (BinaryInsertion.sort before xs).outcome = .ok (sorted lt xs) :=
  ((Simulation.answered ω).sort (h.imp fun ok => ⟨ok, trivial⟩)).1

/-! ## §2. Comparing decorated records. -/

/-- A comparison agrees with the comparison of rows on some decorated records. -/
def Compares (ds : List Direction) (xs : List Decorated) (cmp : Decorated → Decorated → Ordering) :
    Prop :=
  ∀ x ∈ xs, ∀ y ∈ xs, (threeWayRows ds x.key y.key).outcome = .ok (cmp x y)

/-- First by a comparison, then by position. -/
def byPosition (cmp : Decorated → Decorated → Ordering) : Decorated → Decorated → Ordering :=
  compareLex cmp (compareOn Decorated.position)

instance transCmp_byPosition (cmp : Decorated → Decorated → Ordering) [Std.TransCmp cmp] :
    Std.TransCmp (byPosition cmp) :=
  inferInstanceAs (Std.TransCmp (compareLex cmp (compareOn Decorated.position)))

theorem byPosition_eq_lt {cmp : Decorated → Decorated → Ordering} {x y : Decorated} :
    byPosition cmp x y = .lt ↔ cmp x y = .lt ∨ cmp x y = .eq ∧ x.position < y.position := by
  unfold byPosition compareLex compareOn
  rw [Ordering.then_eq_lt, Nat.compare_eq_lt]

/-- What stands before another by key and position does not come behind it by key … -/
theorem not_gt_of_byPosition {cmp : Decorated → Decorated → Ordering} {x y : Decorated}
    (h : byPosition cmp x y = .lt) : cmp x y ≠ .gt := by
  rcases byPosition_eq_lt.mp h with lt | ⟨eq, _⟩
  · rw [lt]
    exact Ordering.noConfusion
  · rw [eq]
    exact Ordering.noConfusion

/-- … and by position if the keys tie. -/
theorem position_lt_of_tie {cmp : Decorated → Decorated → Ordering} {x y : Decorated}
    (h : byPosition cmp x y = .lt) (tie : cmp x y = .eq) : x.position < y.position := by
  rcases byPosition_eq_lt.mp h with lt | ⟨_, hpos⟩
  · rw [tie] at lt
    cases lt
  · exact hpos

theorem before_outcome (ds : List Direction) (x y : Decorated) :
    (Decorated.before ds x y).outcome = (· == .lt) <$> (threeWayRows ds x.key y.key).outcome := by
  unfold Decorated.before keyBefore
  rw [Traced.outcome_emit_bind, Traced.outcome_mapEvents, Traced.outcome_map]

variable {ds : List Direction} {xs : List Decorated} {cmp : Decorated → Decorated → Ordering}

/-- Records that can all be compared are sorted without a fault. -/
theorem sortDecorated_of_compares (h : Compares ds xs cmp) :
    (sortDecorated ds xs).outcome = .ok (sorted (fun x y => cmp x y == .lt) xs) := by
  refine sort_of_answered (List.pairwise_iff_forall_sublist.mpr (fun {x y} hxy => ?_))
  have hx : x ∈ xs := hxy.subset List.mem_cons_self
  have hy : y ∈ xs := hxy.subset (List.mem_cons_of_mem x List.mem_cons_self)
  rw [before_outcome, h y hy x hx]
  rfl

/-! ## §3. The order of the output. -/

variable [Std.TransCmp cmp]

/-- The answer about two records of the input places them by key and position. -/
theorem places_byPosition {x y : Decorated} (h : x.position < y.position) :
    Places (fun x y => cmp x y == .lt) (fun x y => byPosition cmp x y = .lt) x y := by
  constructor
  · -- the later record goes first only if its key comes strictly before
    intro before
    exact byPosition_eq_lt.mpr (.inl (beq_iff_eq.mp before))
  · -- otherwise its key ties, and the earlier position decides, or comes behind
    intro notBefore
    rw [byPosition_eq_lt]
    cases ho : cmp x y with
    | lt => exact .inl rfl
    | eq => exact .inr ⟨rfl, h⟩
    | gt =>
        have swapped : cmp y x = .lt := Std.OrientedCmp.lt_of_gt ho
        rw [← beq_iff_eq] at swapped
        exact absurd (notBefore.symm.trans swapped) Bool.false_ne_true

/-- **The output is strictly ordered by key and position.** -/
theorem sorted_byPosition (hpos : xs.Pairwise (fun x y => x.position < y.position)) :
    (sorted (fun x y => cmp x y == .lt) xs).Pairwise (fun x y => byPosition cmp x y = .lt) :=
  sorted_pairwise Std.TransCmp.lt_trans (hpos.imp places_byPosition)

/-- There is only one such list. -/
theorem eq_of_byPosition {out out' : List Decorated} (hperm : out.Perm out')
    (h : out.Pairwise (fun x y => byPosition cmp x y = .lt))
    (h' : out'.Pairwise (fun x y => byPosition cmp x y = .lt)) : out = out' := by
  refine List.Perm.eq_of_pairwise (fun x y _ _ hxy hyx => ?_) h h' hperm
  have swapped := Std.OrientedCmp.gt_of_lt hxy
  rw [hyx] at swapped
  cases swapped

end OrderBy
