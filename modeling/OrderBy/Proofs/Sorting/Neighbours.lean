/-
  OrderBy.Proofs.Sorting.Neighbours
  ─────────────────────────────────
  **WITHOUT A TOTAL ORDER, NEIGHBOURS STILL STAND THE RIGHT WAY ROUND.**

  Keys may hold values that are not totally ordered: NaN, which ties with every
  number, or sets, of which most pairs tie.  Ties are then not transitive, and the
  output need not be ordered at a distance.  What every sort of comparable records
  still gives is

      each record once          and          no record directly behind one
                                             that it comes strictly before.

  All that is needed of the comparison is that its result is reversed when the
  operands are exchanged: then every answer places the two records that it is
  about, and neighbours have been placed by an answer.
-/
import OrderBy.Proofs.Order.Exchange
import OrderBy.Proofs.Sorting.ByPosition
import OrderBy.Proofs.Phases

namespace OrderBy

open BinaryInsertion

variable {σ : Type}

/-! ## §1. Answers about two records. -/

/-- The second of two records does not come strictly before the first, and their
comparison says so. -/
def InOrder (ds : List Direction) (x y : Decorated) : Prop :=
  ∃ o, (threeWayRows ds y.key x.key).outcome = .ok o ∧ o ≠ .lt

/-- The comparison of two records under directions, a tie in place of a fault. -/
def Decorated.compare (ds : List Direction) (x y : Decorated) : Ordering :=
  match (threeWayRows ds x.key y.key).outcome with
  | .ok o => o
  | .error _ => .eq

/-- Two records that can be compared in both orders, and have proper keys. -/
structure Comparable (ds : List Direction) (x y : Decorated) : Prop where
  forth : ∃ o, (threeWayRows ds x.key y.key).outcome = .ok o
  back : ∃ o, (threeWayRows ds y.key x.key).outcome = .ok o
  left_proper : ∀ v ∈ x.key, v.isProper = true
  right_proper : ∀ v ∈ y.key, v.isProper = true

namespace Comparable

variable {ds : List Direction} {x y : Decorated}

/-- A comparison without a fault is what the sort is told. -/
theorem outcome_back (h : Comparable ds x y) :
    (threeWayRows ds y.key x.key).outcome = .ok (Decorated.compare ds y x) := by
  obtain ⟨o, ho⟩ := h.back
  unfold Decorated.compare
  rw [ho]

/-- The question whether the later record comes before the earlier one is answered. -/
theorem answered (h : Comparable ds x y) :
    (Decorated.before ds y x).outcome = .ok (Decorated.compare ds y x == .lt) := by
  rw [before_outcome, h.outcome_back]
  rfl

/-- **The answer about two comparable records places them in order.** -/
theorem places (h : Comparable ds x y) :
    Places (fun x y => Decorated.compare ds x y == .lt) (InOrder ds) x y := by
  constructor
  · -- the later record goes first: then the earlier one comes after it, as seen from there
    intro first
    have back := h.outcome_back
    rw [beq_iff_eq.mp first] at back
    refine ⟨.gt, ?_, Ordering.noConfusion⟩
    rw [threeWayRows_exchange ds h.right_proper h.left_proper, back]
    rfl
  · -- the records stay as they are, since that is what was answered
    intro second
    exact ⟨_, h.outcome_back, beq_eq_false_iff_ne.mp second⟩

end Comparable

/-! ## §2. The sort. -/

/-- Records of which every two can be compared are sorted without a fault, into an
order in which no neighbours are the wrong way round. -/
theorem sortDecorated_of_comparable {ds : List Direction} {xs : List Decorated}
    (h : xs.Pairwise (Comparable ds)) :
    ∃ out, (sortDecorated ds xs).outcome = .ok out ∧ out.Perm xs ∧ out.IsChain (InOrder ds) :=
  ⟨_, sort_of_answered (h.imp Comparable.answered), sorted_perm _ _,
    sorted_isChain (h.imp Comparable.places)⟩

/-- **A sort of records that need not be totally ordered.**  If every two different
records can be compared, sorting raises nothing, returns every record once, and leaves
no record directly behind one that it comes strictly before. -/
theorem sort_neighbours_inOrder (s : Sorter) (schedule : List Nat) (source : Source)
    (criterion : Criterion) (extractors : Extractors σ) (st : σ) {e : Expression}
    {records : List Record} {concurrent : Bool} {decorated : List Decorated}
    (hread : (criterion.read s.parser).outcome = .ok e) (hsource : source.toList = .ok records)
    (hworkers : s.isConcurrent = .ok concurrent)
    (hreads : (decorate concurrent schedule e.fields extractors records).outcome st
      = .ok decorated)
    (hproper : ∀ d ∈ decorated, ∀ v ∈ d.key, v.isProper = true)
    (hcompare : ∀ x ∈ decorated, ∀ y ∈ decorated, x.position ≠ y.position →
      ∃ o, (threeWayRows e.directions x.key y.key).outcome = .ok o) :
    ∃ out, (s.sortKeyed schedule source criterion extractors).outcome st = .ok out
      ∧ (s.sort schedule source criterion extractors).outcome st = .ok (out.map Decorated.record)
      ∧ out.Perm decorated
      ∧ (out.map Decorated.position).Perm (List.range records.length)
      ∧ (∀ d ∈ out, records[d.position]? = some d.record)
      ∧ out.IsChain (InOrder e.directions) := by
  have shape := decorate_shape hreads
  -- of two records one is behind the other, so they are different ones
  have comparable : decorated.Pairwise (Comparable e.directions) := by
    refine shape.increasing.imp_of_mem (fun {x y} hx hy hxy => ?_)
    exact ⟨hcompare x hx y hy (by omega), hcompare y hy x hx (by omega), hproper x hx, hproper y hy⟩
  obtain ⟨out, ok, perm, chain⟩ := sortDecorated_of_comparable comparable
  have keyed := Sorter.sortKeyed_ok hread hsource hworkers hreads ok
  refine ⟨out, keyed, Sorter.sort_ok keyed, perm, ?_, ?_, chain⟩
  · rw [← shape.positions]
    exact perm.map Decorated.position
  · exact fun d hd => shape.record_at d (perm.mem_iff.mp hd)

/-- A record with one attribute. -/
def recordOfA (n : Nat) (a : Value) : Decorated := ⟨n, ⟨n, .object [("a", a)]⟩, [a]⟩

/-- Four records with a list of a set and a number each: two sets that do not include
one another, one that is included in the first of them, and a number that is none. -/
def untotalRows : List Decorated :=
  [recordOfA 0 (.list [.set [.text "x", .text "y"], .float (.nan ⟨0, 0⟩)]),
   recordOfA 1 (.list [.set [.text "z"], .float (.infinite true)]),
   recordOfA 2 (.list [.set [.text "x"], .float (.nan ⟨1, 0⟩)]),
   recordOfA 3 (.list [.set [.text "x"], .float (.infinite false)])]

/-- The first of these records ties with the second and the second with the third, but
the first comes behind the third.  Every two of them can be compared. -/
theorem sort_neighbours_inOrder_untotal :
    (∀ x ∈ untotalRows, ∀ y ∈ untotalRows, x.position ≠ y.position →
        ∃ o, (threeWayRows [.ascending] x.key y.key).outcome = .ok o)
      ∧ ∃ out, (Sorter.standard.sortKeyed [] (.records (untotalRows.map Decorated.record))
          (.written (.text "a")) ([] : Extractors Unit)).outcome () = .ok out
        ∧ (Sorter.standard.sort [] (.records (untotalRows.map Decorated.record))
            (.written (.text "a")) ([] : Extractors Unit)).outcome ()
            = .ok (out.map Decorated.record)
        ∧ out.Perm untotalRows
        ∧ (out.map Decorated.position).Perm (List.range 4)
        ∧ (∀ d ∈ out, (untotalRows.map Decorated.record)[d.position]? = some d.record)
        ∧ out.IsChain (InOrder [.ascending]) := by
  have compared : ∀ x ∈ untotalRows, ∀ y ∈ untotalRows, x.position ≠ y.position →
      ∃ o, (threeWayRows [.ascending] x.key y.key).outcome = .ok o := by
    intro x hx y hy _
    simp only [untotalRows, List.mem_cons, List.not_mem_nil, or_false] at hx hy
    rcases hx with rfl | rfl | rfl | rfl <;> rcases hy with rfl | rfl | rfl | rfl <;>
      exact ⟨_, rfl⟩
  refine ⟨compared, ?_⟩
  have read : ((Criterion.written (.text "a")).read Sorter.standard.parser).outcome
      = .ok ⟨"a", [⟨"a", .ascending, rfl⟩], List.cons_ne_nil _ _⟩ := rfl
  have reads : (decorate false [] ["a"] ([] : Extractors Unit)
      (untotalRows.map Decorated.record)).outcome () = .ok untotalRows := rfl
  have proper : ∀ d ∈ untotalRows, ∀ v ∈ d.key, v.isProper = true := by decide
  exact sort_neighbours_inOrder Sorter.standard [] (.records (untotalRows.map Decorated.record)) _
    [] () read rfl (Sorter.isConcurrent_int _ 0) reads proper compared

end OrderBy
