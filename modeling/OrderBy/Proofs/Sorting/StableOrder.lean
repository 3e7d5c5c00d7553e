/-
  OrderBy.Proofs.Sorting.StableOrder
  ──────────────────────────────────
  **A SORT RETURNS THE STABLE ORDER OF ITS RECORDS, AND NOTHING ELSE.**

  Let all fields be read, and let the values at every position of the keys be
  homogeneous.  Then no two records are compared with a fault, sorting raises
  nothing, and what it returns is the one list that

      holds every record once,
      has no record behind one that its key comes strictly before, at any distance,
      and keeps records whose keys tie in the order of the input.

  There is only one such list, so every stable sort returns it, whichever
  comparisons it makes.
-/
import OrderBy.Proofs.Phases
import OrderBy.Proofs.Sorting.ByPosition

namespace OrderBy

variable {σ : Type}

/-! ## §1. The stable order. -/

/-- A stable order of some decorated records under directions: each of them once,
none behind one that it comes before, and ties in the order of the input. -/
structure StablyOrders (ds : List Direction) (xs out : List Decorated) : Prop where
  perm : out.Perm xs
  ordered : out.Pairwise (fun x y =>
    ∃ o, (threeWayRows ds x.key y.key).outcome = .ok o ∧ o ≠ .gt)
  stable : out.Pairwise (fun x y =>
    (threeWayRows ds x.key y.key).outcome = .ok .eq → x.position < y.position)

variable {ds : List Direction} {xs out : List Decorated} {cmp : Decorated → Decorated → Ordering}

/-- Where rows are compared as by a total preorder, a stable order is the strict
order by key and position. -/
theorem stablyOrders_iff (h : Compares ds xs cmp) :
    StablyOrders ds xs out
      ↔ out.Perm xs ∧ out.Pairwise (fun x y => byPosition cmp x y = .lt) := by
  constructor
  · intro stably
    obtain ⟨perm, ordered, stable⟩ := stably
    refine ⟨perm, (ordered.and stable).imp_of_mem (fun {x y} hx hy hxy => ?_)⟩
    obtain ⟨⟨o, ho, hle⟩, tie⟩ := hxy
    have compared := h x (perm.mem_iff.mp hx) y (perm.mem_iff.mp hy)
    rw [compared] at ho tie
    obtain rfl := Except.ok.inj ho
    -- x comes first because its key does, or because it ties and stood first
    rw [byPosition_eq_lt]
    cases hc : cmp x y with
    | lt => exact .inl rfl
    | eq => exact .inr ⟨rfl, tie (by rw [hc])⟩
    | gt => exact absurd hc hle
  · intro strictly
    obtain ⟨perm, sorted⟩ := strictly
    have compared : ∀ {x y}, x ∈ out → y ∈ out →
        (threeWayRows ds x.key y.key).outcome = .ok (cmp x y) :=
      fun hx hy => h _ (perm.mem_iff.mp hx) _ (perm.mem_iff.mp hy)
    refine ⟨perm, sorted.imp_of_mem (fun {x y} hx hy hxy => ?_),
      sorted.imp_of_mem (fun {x y} hx hy hxy tie => ?_)⟩
    · exact ⟨cmp x y, compared hx hy, not_gt_of_byPosition hxy⟩
    · rw [compared hx hy] at tie
      exact position_lt_of_tie hxy (Except.ok.inj tie)

/-- Decorated records with homogeneous columns are compared as by a total
preorder. -/
theorem exists_compares {width : Nat} (hlen : ∀ x ∈ xs, x.key.length = width)
    (hcol : ∀ i < width, Homogeneous (column i (xs.map Decorated.key))) (ds : List Direction) :
    ∃ shape : List (Direction × Kind),
      Compares ds xs (fun x y => compareRows shape x.key y.key) := by
  have lengths : ∀ row ∈ xs.map Decorated.key, row.length = width := by
    intro row hrow
    obtain ⟨x, hx, rfl⟩ := List.mem_map.mp hrow
    exact hlen x hx
  obtain ⟨ks, hks⟩ := exists_kinds lengths hcol
  exact ⟨ds.zip ks, fun x hx y hy => threeWayRows_of_kinds
    (hks _ (List.mem_map_of_mem hx)) (hks _ (List.mem_map_of_mem hy)) ds⟩

/-! ## §2. Sorting gives it. -/

/-- **Sorting returns the stable order of the records by their keys.**  No comparison
of two records raises anything, nor does the sort, and there is no other stable
order. -/
theorem sort_stablyOrders (s : Sorter) (schedule : List Nat) (records : List Record)
    (e : Expression) (extractors : Extractors σ) (st : σ) {concurrent : Bool}
    {decorated : List Decorated} (hworkers : s.isConcurrent = .ok concurrent)
    (hreads : (decorate concurrent schedule e.fields extractors records).outcome st
      = .ok decorated)
    (hkinds : ∀ i < e.keys.length, Homogeneous (column i (decorated.map Decorated.key))) :
    Decorates e.keys.length records decorated
      ∧ (∀ x ∈ decorated, ∀ y ∈ decorated,
          ∃ o, (threeWayRows e.directions x.key y.key).outcome = .ok o)
      ∧ ∃ out, (s.sortKeyed schedule (.records records) (.parsed e) extractors).outcome st = .ok out
        ∧ (s.sort schedule (.records records) (.parsed e) extractors).outcome st
            = .ok (out.map Decorated.record)
        ∧ ∀ other, StablyOrders e.directions decorated other ↔ other = out := by
  have width : e.fields.length = e.keys.length := List.length_map _
  have shape := decorate_shape hreads
  rw [width] at shape
  obtain ⟨kinds, compares⟩ := exists_compares shape.keys hkinds e.directions
  have cmp := transCmp_comap Decorated.key (compareRows kinds)
  have sortedOut := @sorted_byPosition decorated (fun x y => compareRows kinds x.key y.key) cmp
    shape.increasing
  have perm := BinaryInsertion.sorted_perm
    (fun x y : Decorated => compareRows kinds x.key y.key == .lt) decorated
  have ok : (s.sortKeyed schedule (.records records) (.parsed e) extractors).outcome st = .ok _ :=
    Sorter.sortKeyed_ok rfl rfl hworkers hreads (sortDecorated_of_compares compares)
  refine ⟨shape, fun x hx y hy => ⟨_, compares x hx y hy⟩, _, ok, Sorter.sort_ok ok,
    fun other => ?_⟩
  -- a stable order is strict by key and position, and there is one strict order
  rw [stablyOrders_iff compares]
  constructor
  · intro strictly
    obtain ⟨otherPerm, otherSorted⟩ := strictly
    exact eq_of_byPosition (otherPerm.trans perm.symm) otherSorted sortedOut
  · intro equal
    rw [equal]
    exact ⟨perm, sortedOut⟩

/-- Four records with ties in both fields and numbers of three types. -/
def tiedRows : List Decorated :=
  [⟨0, ⟨0, .object [("a", .int 1), ("b", .text "y")]⟩, [.int 1, .text "y"]⟩,
   ⟨1, ⟨1, .object [("a", .bool true), ("b", .text "x")]⟩, [.bool true, .text "x"]⟩,
   ⟨2, ⟨2, .object [("a", .float (.infinite false)), ("b", .text "x")]⟩,
    [.float (.infinite false), .text "x"]⟩,
   ⟨3, ⟨3, .object [("a", .int 1), ("b", .text "y")]⟩, [.int 1, .text "y"]⟩]

/-- The keys `a DESC, b ASC`. -/
def descendingThenAscending : Expression :=
  ⟨"a DESC, b", [⟨"a", .descending, rfl⟩, ⟨"b", .ascending, rfl⟩],
    List.cons_ne_nil _ _⟩

/-- These records are read and have homogeneous columns. -/
theorem sort_stablyOrders_tied :
    Decorates 2 (tiedRows.map Decorated.record) tiedRows
      ∧ (∀ x ∈ tiedRows, ∀ y ∈ tiedRows,
          ∃ o, (threeWayRows [.descending, .ascending] x.key y.key).outcome = .ok o)
      ∧ ∃ out, (Sorter.standard.sortKeyed [] (.records (tiedRows.map Decorated.record))
            (.parsed descendingThenAscending) ([] : Extractors Unit)).outcome () = .ok out
        ∧ (Sorter.standard.sort [] (.records (tiedRows.map Decorated.record))
            (.parsed descendingThenAscending) ([] : Extractors Unit)).outcome ()
            = .ok (out.map Decorated.record)
        ∧ ∀ other, StablyOrders [.descending, .ascending] tiedRows other ↔ other = out := by
  have columns : ∀ i < 2, Homogeneous (column i (tiedRows.map Decorated.key)) := by
    intro i hi
    rcases i with _ | _ | i
    · show Homogeneous [.int 1, .bool true, .float (.infinite false), .int 1]
      exact .numbers (by simp [Value.IsNumber])
    · show Homogeneous [.text "y", .text "x", .text "x", .text "y"]
      exact .texts (by simp [Value.IsText])
    · omega
  exact sort_stablyOrders Sorter.standard [] (tiedRows.map Decorated.record)
    descendingThenAscending [] () (Sorter.isConcurrent_int _ 0) rfl columns

end OrderBy
