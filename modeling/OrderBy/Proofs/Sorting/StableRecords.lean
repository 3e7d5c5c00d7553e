/-
  OrderBy.Proofs.Sorting.StableRecords
  ────────────────────────────────────
  **WHERE A TOTAL PREORDER COMPARES THE RECORDS, A SORT IS THE STABLE SORT UNDER IT.**

  Let every field of every record read as one value, and let some total preorder of the
  records agree with the comparison of their rows of values.  Then every sort, serial or
  concurrent, under whatever schedule, returns

      the one list that is ordered by it and keeps ties in the order of the input.

  Which preorder it is does not matter here: lexicographic ones come from values that
  are totally ordered, others from values that happen to be comparable.
-/
import OrderBy.Proofs.Reading.Values
import OrderBy.Proofs.Sorting.Naturality
import OrderBy.Proofs.Sorting.StableOrder
import OrderBy.Proofs.Sorting.StableSort

namespace OrderBy

open BinaryInsertion

variable {σ : Type}

/-! ## §1. From positions to classes. -/

/-- A strict order by a comparison of records and by position is a stable sort of
the records. -/
theorem stableSort_of_byPosition {cmp : Record → Record → Ordering} [Std.TransCmp cmp]
    {decorated out : List Decorated} (perm : out.Perm decorated)
    (positions : decorated.Pairwise (fun x y => x.position < y.position))
    (sorted : out.Pairwise (fun x y => byPosition (fun x y => cmp x.record y.record) x y = .lt)) :
    StableSort cmp (decorated.map Decorated.record) (out.map Decorated.record) where
  perm := perm.map Decorated.record
  ordered := by
    rw [List.pairwise_map]
    exact sorted.imp not_gt_of_byPosition
  stable := by
    intro c
    rw [List.filter_map, List.filter_map]
    -- within a class the position decides, in the output as in the input
    have inClass : (out.filter (tied cmp c ∘ Decorated.record)).Pairwise
        (fun x y => x.position < y.position) := by
      refine (sorted.filter _).imp_of_mem (fun {x y} hx hy hxy => ?_)
      have hx' := tied_iff.mp (List.mem_filter.mp hx).2
      have hy' := tied_iff.mp (List.mem_filter.mp hy).2
      have tie : cmp x.record y.record = .eq :=
        Std.TransCmp.eq_trans (Std.OrientedCmp.eq_symm hx') hy'
      exact position_lt_of_tie hxy tie
    have same : out.filter (tied cmp c ∘ Decorated.record)
        = decorated.filter (tied cmp c ∘ Decorated.record) :=
      List.Perm.eq_of_pairwise (fun x y _ _ hxy hyx => by omega) inClass
        (positions.filter _) (perm.filter _)
    rw [same]

/-! ## §2. Sorting. -/

variable {extractors : Extractors σ} {records : List Record} {value : Record → String → Value}

/-- A comparison agrees with the comparison of rows on some records. -/
def ComparesRecords (value : Record → String → Value) (e : Expression) (records : List Record)
    (cmp : Record → Record → Ordering) : Prop :=
  ∀ r ∈ records, ∀ r' ∈ records,
    (threeWayRows e.directions (rowOf value e r) (rowOf value e r')).outcome = .ok (cmp r r')

/-- It then agrees with that of the decorated records. -/
theorem ComparesRecords.decoratedAs {e : Expression} {cmp : Record → Record → Ordering}
    (h : ComparesRecords value e records cmp) :
    Compares e.directions (decoratedAs value e records) (fun x y => cmp x.record y.record) := by
  intro x hx y hy
  rw [decoratedAs_key hx, decoratedAs_key hy]
  exact h _ (decoratedAs_record hx) _ (decoratedAs_record hy)

section Compared

variable (s : Sorter) (schedule : List Nat) {source : Source} {criterion : Criterion} {e : Expression}
  {concurrent : Bool} (hread : (criterion.read s.parser).outcome = .ok e)
  (hsource : source.toList = .ok records) (hworkers : s.isConcurrent = .ok concurrent)
  (hreads : ReadsAs extractors e.fields records value) {cmp : Record → Record → Ordering}
  (hcmp : ComparesRecords value e records cmp) (st : σ)

include hread hsource hworkers hreads hcmp

/-- A sort decorates its records, and puts them where the comparison says. -/
theorem Sorter.exists_decorated :
    ∃ decorated, Decorates e.fields.length records decorated
      ∧ (s.sort schedule source criterion extractors).outcome st
        = .ok ((sorted (fun x y => cmp x.record y.record == .lt) decorated).map
            Decorated.record) := by
  have shape := decorates_decoratedAs value e records
  refine ⟨_, shape, ?_⟩
  rw [sort_of_decorate hread hsource hworkers (decorate_of_readsAs hreads concurrent schedule st),
    sortDecorated_of_compares hcmp.decoratedAs]
  rfl

/-- **A sort is the sort of its records under any comparison that agrees with it.** -/
theorem Sorter.sort_eq_sorted :
    (s.sort schedule source criterion extractors).outcome st
      = .ok (sorted (fun r r' => cmp r r' == .lt) records) := by
  obtain ⟨decorated, shape, outcome⟩ :=
    s.exists_decorated schedule hread hsource hworkers hreads hcmp st
  have view : sorted (fun r r' => cmp r r' == .lt) (decorated.map Decorated.record)
      = (sorted (fun x y => cmp x.record y.record == .lt) decorated).map Decorated.record :=
    sort_map (m := Id) (fun _ _ => rfl) decorated
  rw [outcome, ← view, shape.records]

/-- **It is the stable sort under any such comparison that is a total preorder.** -/
theorem Sorter.sort_stableSort [Std.TransCmp cmp] :
    ∃ out, (s.sort schedule source criterion extractors).outcome st = .ok out
      ∧ StableSort cmp records out := by
  obtain ⟨decorated, shape, outcome⟩ :=
    s.exists_decorated schedule hread hsource hworkers hreads hcmp st
  have trans := transCmp_comap Decorated.record cmp
  have stable := stableSort_of_byPosition (sorted_perm _ decorated) shape.increasing
    (@sorted_byPosition decorated _ trans shape.increasing)
  rw [shape.records] at stable
  exact ⟨_, outcome, stable⟩

end Compared

end OrderBy
