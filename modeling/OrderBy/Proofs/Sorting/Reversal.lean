/-
  OrderBy.Proofs.Sorting.Reversal
  ───────────────────────────────
  **EXCHANGING ALL DIRECTIONS READS THE SORT OF THE REVERSED LIST BACKWARDS.**

  A list and its reverse, and a comparison and its exchange, have stable sorts that are
  each other's reverse, ties included:

      xs            ──sort by cmp──▸         out
      xs reversed   ──sort by its exchange──▸  out reversed

  Under keys with all directions exchanged records are compared with exchanged operands,
  and there is only one stable sort.  Reversing the sorted list alone would turn round
  the records that tie; where none do, it is enough.
-/
import OrderBy.Proofs.Sorting.MultiPass

namespace OrderBy

variable {σ : Type}

/-! ## §1. Stable sorts read backwards. -/

section StableSort

variable {α : Type} {cmp : α → α → Ordering}

/-- The comparison with exchanged operands. -/
def exchange (cmp : α → α → Ordering) (x y : α) : Ordering := cmp y x

instance transCmp_exchange (cmp : α → α → Ordering) [Std.TransCmp cmp] :
    Std.TransCmp (exchange cmp) :=
  inferInstanceAs (Std.TransCmp fun x y => cmp y x)

variable [Std.TransCmp cmp] {xs out : List α}

/-- Which elements tie does not depend on the order of the operands. -/
theorem tied_exchange (c x : α) : tied (exchange cmp) c x = tied cmp c x := by
  rw [Bool.eq_iff_iff, tied_iff, tied_iff]
  exact ⟨Std.OrientedCmp.eq_symm, Std.OrientedCmp.eq_symm⟩

/-- **A stable sort read backwards is one of the list read backwards**, with exchanged
operands. -/
theorem StableSort.reverse (h : StableSort cmp xs out) :
    StableSort (exchange cmp) xs.reverse out.reverse where
  perm := (List.reverse_perm out).trans (h.perm.trans (List.reverse_perm xs).symm)
  ordered := List.pairwise_reverse.mpr h.ordered
  stable := by
    intro c
    have classes : ∀ ys : List α, ys.reverse.filter (tied (exchange cmp) c)
        = (ys.filter (tied cmp c)).reverse := by
      intro ys
      rw [List.filter_reverse, List.filter_congr fun x _ => tied_exchange c x]
    rw [classes, classes, h.stable]

/-- Where no two elements tie, every class has at most one of them. -/
theorem filter_tied_reverse (apart : xs.Pairwise (fun x y => cmp x y ≠ .eq)) (c : α) :
    (xs.filter (tied cmp c)).reverse = xs.filter (tied cmp c) := by
  have apart' := apart.filter (tied cmp c)
  cases hys : xs.filter (tied cmp c) with
  | nil => rfl
  | cons x ys =>
      cases ys with
      | nil => rfl
      | cons y ys =>
          rw [hys] at apart'
          have member : ∀ {z}, z ∈ x :: y :: ys → cmp c z = .eq :=
            fun hz => tied_iff.mp (List.mem_filter.mp (hys ▸ hz)).2
          -- two elements of a class tie
          have tie : cmp x y = .eq := Std.TransCmp.eq_trans
            (Std.OrientedCmp.eq_symm (member List.mem_cons_self))
            (member (List.mem_cons_of_mem x List.mem_cons_self))
          exact absurd tie ((List.pairwise_cons.mp apart').1 y List.mem_cons_self)

/-- Where no two elements tie, a stable sort of a list is one of the reversed list. -/
theorem StableSort.of_reverse (h : StableSort cmp xs.reverse out)
    (apart : xs.Pairwise (fun x y => cmp x y ≠ .eq)) : StableSort cmp xs out where
  perm := h.perm.trans (List.reverse_perm xs)
  ordered := h.ordered
  stable := by
    intro c
    rw [h.stable, List.filter_reverse, filter_tied_reverse apart]

end StableSort

/-! ## §2. Exchanged directions. -/

variable {kind : String → Kind} {value : Record → String → Value}

theorem Direction.orient_flip {α : Type} (d : Direction) (cmp : α → α → Ordering) :
    d.flip.orient cmp = exchange (d.orient cmp) := by
  cases d <;> rfl

/-- **Keys with exchanged directions compare records with exchanged operands.** -/
theorem compareRecords_flip (ks : List SortKey) :
    compareRecords kind value (ks.map SortKey.flip) = exchange (compareRecords kind value ks) := by
  induction ks with
  | nil => rfl
  | cons k ks ih =>
      funext r r'
      show Ordering.then ((k.direction.flip.orient _) _ _)
        (compareRecords kind value (ks.map SortKey.flip) r r') = _
      rw [ih, Direction.orient_flip]
      rfl

/-- Sorting records by an expression is stably sorting them under its keys. -/
theorem sort_of_kinds (s : Sorter) (schedule : List Nat) {e : Expression}
    {extractors : Extractors σ} {records : List Record} {concurrent : Bool}
    (hworkers : s.isConcurrent = .ok concurrent)
    (hreads : ReadsAs extractors e.fields records value)
    (hkinds : ∀ f ∈ e.fields, ∀ r ∈ records, (kind f).Has (value r f)) (st : σ) :
    ∃ out, (s.sort schedule (.records records) (.parsed e) extractors).outcome st = .ok out
      ∧ StableSort (compareRecords kind value e.keys) records out :=
  s.sort_stableSort schedule rfl rfl hworkers hreads (comparesRecords_of_kinds hkinds) st

/-- **The reversal law.**  Sorting by keys with all directions exchanged gives the reverse
of what sorting the reversed list gives, ties included, and of what sorting the list itself
gives if no two of its records tie. -/
theorem sort_flip (s : Sorter) (schedule schedule' : List Nat) {p q : Expression}
    (hflip : q.keys = p.keys.map SortKey.flip) {extractors : Extractors σ} {records : List Record}
    {concurrent : Bool} (hworkers : s.isConcurrent = .ok concurrent)
    (hreads : ReadsAs extractors p.fields records value)
    (hkinds : ∀ f ∈ p.fields, Homogeneous (records.map (value · f))) (st st' : σ) :
    ∃ out, (s.sort schedule (.records records.reverse) (.parsed p) extractors).outcome st = .ok out
      ∧ (s.sort schedule' (.records records) (.parsed q) extractors).outcome st' = .ok out.reverse
      ∧ (records.Pairwise (fun r r' =>
            (threeWayRows p.directions (rowOf value p r) (rowOf value p r')).outcome ≠ .ok .eq) →
          (s.sort schedule (.records records) (.parsed p) extractors).outcome st = .ok out) := by
  obtain ⟨kind, kinds⟩ := exists_kind_of_fields hkinds
  have fields : q.fields = p.fields := by
    unfold Expression.fields
    rw [hflip, List.map_map]
    rfl
  -- every one of the three lists is sorted by what its keys make of the records
  have backwards : ∀ f ∈ p.fields, ∀ r ∈ records.reverse, (kind f).Has (value r f) :=
    fun f hf r hr => kinds f hf r (List.mem_reverse.mp hr)
  have readsBackwards : ReadsAs extractors p.fields records.reverse value :=
    hreads.mono (fun _ hf => hf) (fun _ hr => List.mem_reverse.mp hr)
  obtain ⟨out, hout, sorted⟩ := sort_of_kinds s schedule hworkers readsBackwards backwards st
  obtain ⟨flipped, hflipped, sorted'⟩ :=
    sort_of_kinds s schedule' hworkers (fields ▸ hreads) (fields ▸ kinds) st'
  obtain ⟨straight, hstraight, sorted''⟩ := sort_of_kinds s schedule hworkers hreads kinds st
  refine ⟨out, hout, ?_, fun apart => ?_⟩
  · have reversed := sorted.reverse
    rw [List.reverse_reverse] at reversed
    rw [hflip, compareRecords_flip] at sorted'
    rw [hflipped, sorted'.unique reversed]
  · have apart' : records.Pairwise (fun r r' => compareRecords kind value p.keys r r' ≠ .eq) := by
      refine apart.imp_of_mem fun {r r'} hr hr' untied tie => untied ?_
      rw [comparesRecords_of_kinds kinds r hr r' hr', tie]
    rw [hstraight, sorted''.unique (sorted.of_reverse apart')]

/-- Four records with two texts each, of which the first two tie. -/
def fourPairs : List Record :=
  [⟨0, .object [("a", .text "m"), ("b", .text "y")]⟩, ⟨1, .object [("a", .text "m"), ("b", .text "y")]⟩,
   ⟨2, .object [("a", .text "n"), ("b", .text "x")]⟩, ⟨3, .object [("a", .text "m"), ("b", .text "x")]⟩]

/-- The key `a` ascending and then the key `b` descending. -/
def upDown : Expression :=
  ⟨"a, b DESC", [⟨"a", .ascending, isFieldName_a⟩, ⟨"b", .descending, isFieldName_b⟩], List.cons_ne_nil _ _⟩

/-- The same keys in the other directions. -/
def downUp : Expression :=
  ⟨"a DESC, b", [⟨"a", .descending, isFieldName_a⟩, ⟨"b", .ascending, isFieldName_b⟩], List.cons_ne_nil _ _⟩

/-- The records that tie come out of the reversed list the other way round, and so stand in
the order of the input once that is read backwards. -/
theorem sort_flip_tied :
    ReadsAs ([] : Extractors Unit) upDown.fields fourPairs attributeOf
      ∧ (List.map Record.id <$> Sorter.standard.sort [] (.records fourPairs.reverse) (.parsed upDown)
          ([] : Extractors Unit)).outcome () = .ok [1, 0, 3, 2]
      ∧ (List.map Record.id <$> Sorter.standard.sort [] (.records fourPairs) (.parsed downUp)
          ([] : Extractors Unit)).outcome () = .ok [2, 3, 0, 1] := by
  have reads : ReadsAs ([] : Extractors Unit) ["a", "b"] fourPairs attributeOf := by
    intro r hr f hf st
    simp only [fourPairs, List.mem_cons, List.not_mem_nil, or_false] at hr hf
    rcases hr with rfl | rfl | rfl | rfl <;> rcases hf with rfl | rfl <;> rfl
  have kinds : ∀ f ∈ ["a", "b"], Homogeneous (fourPairs.map (attributeOf · f)) := by
    intro f hf
    simp only [List.mem_cons, List.not_mem_nil, or_false] at hf
    rcases hf with rfl | rfl
    · show Homogeneous [.text "m", .text "m", .text "n", .text "m"]
      exact .texts (by simp [Value.IsText])
    · show Homogeneous [.text "y", .text "y", .text "x", .text "x"]
      exact .texts (by simp [Value.IsText])
  obtain ⟨out, backwards, flipped, _⟩ := sort_flip (p := upDown) (q := downUp) Sorter.standard [] []
    rfl Sorter.isConcurrent_standard reads kinds () ()
  -- what the reversed list gives is computed, and the law gives the rest
  have computed : (Sorter.standard.sortKeyed [] (.records fourPairs.reverse) (.parsed upDown)
      ([] : Extractors Unit)).outcome () = .ok _ :=
    Sorter.sortKeyed_ok rfl rfl Sorter.isConcurrent_standard rfl rfl
  obtain rfl := Except.ok.inj (backwards.symm.trans (Sorter.sort_ok computed))
  rw [Run.outcome_map, Run.outcome_map, flipped, backwards]
  exact ⟨reads, rfl, rfl⟩

end OrderBy
