/-
  OrderBy.Proofs.Sorting.Fixpoint
  ───────────────────────────────
  **WHAT IS IN ORDER STAYS AS IT IS, AND A SORT PUTS ITS RECORDS IN ORDER.**

  In order means: no record comes strictly before the one in front of it.  Nothing is
  said about records at a distance, and without a total order nothing could be:

      in order       →   unchanged, with one question about every two neighbours
      a sort's output  →   in order

  So sorting once more changes nothing.  That answers count from both sides is what it
  rests on: the second sort may ask a question the other way round.
-/
import OrderBy.Proofs.Sorting.Answered
import OrderBy.Proofs.Sorting.MultiPass
import OrderBy.Proofs.Sorting.Neighbours

namespace OrderBy

open BinaryInsertion

variable {σ : Type} {value : Record → String → Value} {e : Expression} {records : List Record}

/-! ## §1. Records in order. -/

/-- One record may stand in front of another: by their rows of values the second does not
come strictly before the first, and their comparison says so. -/
def InOrderBy (value : Record → String → Value) (e : Expression) (r r' : Record) : Prop :=
  ∃ o, (threeWayRows e.directions (rowOf value e r') (rowOf value e r)).outcome = .ok o ∧ o ≠ .lt

theorem inOrderBy_iff {x y : Decorated} (hx : x.key = rowOf value e x.record)
    (hy : y.key = rowOf value e y.record) :
    InOrder e.directions x y ↔ InOrderBy value e x.record y.record := by
  unfold InOrder InOrderBy
  rw [hx, hy]

/-- Decorations are in order as their records are. -/
theorem isChain_decoratedAs_iff {out : List Decorated}
    (keys : ∀ d ∈ out, d.key = rowOf value e d.record) :
    out.IsChain (InOrder e.directions) ↔ (out.map Decorated.record).IsChain (InOrderBy value e) := by
  rw [List.isChain_map, List.isChain_iff_getElem, List.isChain_iff_getElem]
  refine forall₂_congr fun i hi => ?_
  exact inOrderBy_iff (keys _ (List.getElem_mem _)) (keys _ (List.getElem_mem hi))

/-- What is in order is not moved. -/
theorem unmoved_of_inOrder {ds : List Direction} {xs : List Decorated}
    (h : xs.IsChain (InOrder ds)) : Unmoved (Decorated.before ds) xs := by
  refine h.imp fun {x y} inOrder => ?_
  obtain ⟨o, ho, notLess⟩ := inOrder
  rw [before_outcome, ho]
  exact congrArg Except.ok (beq_eq_false_iff_ne.mpr notLess)

/-! ## §2. Sorting what is in order. -/

/-- Asking about neighbours asks of each position whether it comes before the last one. -/
theorem question_neighbourEvents {ds : List Direction} {xs : List Decorated} {n : Nat}
    (positions : xs.map Decorated.position = List.range n) :
    (neighbourEvents (Decorated.before ds) xs).filterMap Event.question?
      = (List.range (n - 1)).map fun i => (i + 1, i) := by
  have neighbours : (xs.zip xs.tail).map (fun p => (p.2.position, p.1.position))
      = ((List.range n).zip (List.range n).tail).map (fun p => (p.2, p.1)) := by
    rw [← positions, ← List.map_tail, List.zip_map, List.map_map]
    rfl
  unfold neighbourEvents
  simp only [List.filterMap_flatMap, question_before]
  rw [← List.map_eq_flatMap, neighbours]
  refine List.ext_getElem ?_ fun i _ _ => ?_
  · simp
  · simp [Nat.add_comm]

/-- **A sort leaves its neighbours in order**, if it returns. -/
theorem sortDecorated_isChain {ds : List Direction} {xs out : List Decorated}
    (increasing : xs.Pairwise (fun x y => x.position < y.position))
    (hproper : ∀ d ∈ xs, ∀ v ∈ d.key, v.isProper = true)
    (h : (sortDecorated ds xs).outcome = .ok out) : out.IsChain (InOrder ds) := by
  have perm := (sortDecorated_without_perm ds xs).2 out h
  have placed := isChain_of_outcome (fun hxy => by omega) increasing h
  rw [List.isChain_iff_getElem] at placed ⊢
  intro i hi
  rcases placed i hi with ⟨_, second⟩ | ⟨_, first⟩
  · -- the sort was told that the second one does not come first
    rw [before_outcome] at second
    obtain ⟨o, ho, notLess⟩ := map_eq_ok.mp second
    exact ⟨o, ho, beq_eq_false_iff_ne.mp notLess⟩
  · -- it was told that the first one does, so the second one comes behind it
    rw [before_outcome] at first
    obtain ⟨o, ho, less⟩ := map_eq_ok.mp first
    obtain rfl := beq_iff_eq.mp less
    refine ⟨.gt, ?_, Ordering.noConfusion⟩
    rw [threeWayRows_exchange ds (hproper _ (perm.mem_iff.mp (List.getElem_mem _)))
      (hproper _ (perm.mem_iff.mp (List.getElem_mem hi))), ho]
    rfl

section Sorted

variable (s : Sorter) (schedule : List Nat) {source : Source} {criterion : Criterion}
  {concurrent : Bool} {extractors : Extractors σ}
  (hread : (criterion.read s.parser).outcome = .ok e) (hsource : source.toList = .ok records)
  (hworkers : s.isConcurrent = .ok concurrent)
  (hreads : ReadsAs extractors e.fields records value) (st : σ)

include hread hsource hworkers hreads

/-- **Records in order are returned as they are**, after one question about every two
neighbours. -/
theorem sort_of_inOrder (h : records.IsChain (InOrderBy value e)) :
    (s.sort schedule source criterion extractors).outcome st = .ok records
      ∧ s.order schedule source criterion extractors st = .ok (List.range records.length)
      ∧ s.questions schedule source criterion extractors st
        = (List.range (records.length - 1)).map fun i => (i + 1, i) := by
  have shape := decorates_decoratedAs value e records
  have decorated := decorate_of_readsAs hreads concurrent schedule st
  rw [← shape.records, ← isChain_decoratedAs_iff fun d hd => decoratedAs_key hd] at h
  have unmoved : sortDecorated e.directions (decoratedAs value e records)
      = ⟨neighbourEvents (Decorated.before e.directions) (decoratedAs value e records),
          .ok (decoratedAs value e records)⟩ := sort_of_unmoved (unmoved_of_inOrder h)
  refine ⟨?_, ?_, ?_⟩
  · rw [sort_of_decorate hread hsource hworkers decorated, unmoved]
    exact congrArg Except.ok shape.records
  · rw [order_of_decorate hread hsource hworkers decorated, unmoved]
    exact congrArg Except.ok shape.positions
  · rw [questions_of_decorate hread hsource hworkers decorated, unmoved]
    exact question_neighbourEvents shape.positions

/-- **What a sort returns is in order.** -/
theorem sort_inOrder (hproper : ∀ r ∈ records, ∀ f ∈ e.fields, (value r f).isProper = true)
    {out : List Record}
    (hout : (s.sort schedule source criterion extractors).outcome st = .ok out) :
    out.Perm records ∧ out.IsChain (InOrderBy value e) := by
  have shape := decorates_decoratedAs value e records
  rw [sort_of_decorate hread hsource hworkers (decorate_of_readsAs hreads concurrent schedule st)]
    at hout
  obtain ⟨sorted, hsorted, rfl⟩ := map_eq_ok.mp hout
  have perm := (sortDecorated_without_perm e.directions _).2 sorted hsorted
  have keys : ∀ d ∈ sorted, d.key = rowOf value e d.record :=
    fun d hd => decoratedAs_key (perm.mem_iff.mp hd)
  have proper : ∀ d ∈ decoratedAs value e records, ∀ v ∈ d.key, v.isProper = true := by
    intro d hd v hv
    rw [decoratedAs_key hd] at hv
    obtain ⟨f, hf, rfl⟩ := List.mem_map.mp hv
    exact hproper _ (decoratedAs_record hd) f hf
  refine ⟨shape.records ▸ perm.map Decorated.record, ?_⟩
  rw [← isChain_decoratedAs_iff keys]
  exact sortDecorated_isChain shape.increasing proper hsorted

end Sorted

/-! ## §3. Every stable sort does so. -/

section Stable

variable {cmp : Record → Record → Ordering} [Std.TransCmp cmp]

/-- Where a total preorder compares the records, the only stable order of records in order
is the one that they have. -/
theorem stablyOrders_of_inOrder (hcmp : ComparesRecords value e records cmp)
    (h : records.IsChain (InOrderBy value e)) {other : List Decorated}
    (stably : StablyOrders e.directions (decoratedAs value e records) other) :
    other.map Decorated.record = records := by
  have shape := decorates_decoratedAs value e records
  have compares := hcmp.decoratedAs
  have trans := transCmp_comap Decorated.record cmp
  -- the strict order by key and position is what the sort gives, which moves nothing
  rw [← shape.records, ← isChain_decoratedAs_iff fun d hd => decoratedAs_key hd] at h
  have sortedIs := sortDecorated_of_compares compares
  unfold sortDecorated at sortedIs
  rw [sort_of_unmoved (unmoved_of_inOrder h)] at sortedIs
  have strictly := @sorted_byPosition (decoratedAs value e records) _ trans shape.increasing
  rw [← Except.ok.inj sortedIs] at strictly
  obtain ⟨perm, strictly'⟩ := (stablyOrders_iff compares).mp stably
  rw [@eq_of_byPosition (fun x y => cmp x.record y.record) trans _ _ perm strictly' strictly,
    shape.records]

/-- A stable order is in order. -/
theorem StablyOrders.inOrder (hcmp : ComparesRecords value e records cmp) {other : List Decorated}
    (stably : StablyOrders e.directions (decoratedAs value e records) other) :
    (other.map Decorated.record).IsChain (InOrderBy value e) := by
  have compares := hcmp.decoratedAs
  rw [← isChain_decoratedAs_iff fun d hd => decoratedAs_key (stably.perm.mem_iff.mp hd)]
  refine (stably.ordered.imp_of_mem fun {x y} hx hy le => ?_).isChain
  obtain ⟨o, ho, notGreater⟩ := le
  have forth := compares x (stably.perm.mem_iff.mp hx) y (stably.perm.mem_iff.mp hy)
  have back := compares y (stably.perm.mem_iff.mp hy) x (stably.perm.mem_iff.mp hx)
  obtain rfl := Except.ok.inj (ho.symm.trans forth)
  refine ⟨_, back, fun less => notGreater (Std.OrientedCmp.gt_of_lt less)⟩

end Stable

/-! ## §4. Sorting again. -/

/-- **Sorting once more changes nothing.**  Let readings depend on the record alone.

Records of which none comes strictly before the one in front of it, by comparisons that
raise nothing, are returned as they are, after one question about every two neighbours.
A sort of proper values, be they totally ordered or not, returns such records if it
returns: so sorting them again, in whatever state and under whatever schedule, returns
them unchanged.  Where the values of every field are homogeneous, both are true of
stable sorts in general, whichever questions they ask. -/
theorem sort_again (s : Sorter) (schedule schedule' : List Nat) (source : Source)
    (criterion : Criterion) (extractors : Extractors σ) (st st' : σ) {e : Expression}
    {records : List Record} {concurrent : Bool}
    (hread : (criterion.read s.parser).outcome = .ok e) (hsource : source.toList = .ok records)
    (hworkers : s.isConcurrent = .ok concurrent)
    (hdetermined : DeterminedOn extractors e.fields records) :
    (∀ value, ReadsAs extractors e.fields records value → records.IsChain (InOrderBy value e) →
        (s.sort schedule source criterion extractors).outcome st = .ok records
          ∧ s.order schedule source criterion extractors st = .ok (List.range records.length)
          ∧ s.questions schedule source criterion extractors st
            = (List.range (records.length - 1)).map fun i => (i + 1, i))
      ∧ ((∀ r ∈ records, ∀ f ∈ e.fields, ∀ v,
            ((Accessor.forField extractors f).read r).outcome st = .ok v → v.isProper = true) →
          ∀ out, (s.sort schedule source criterion extractors).outcome st = .ok out →
            (s.sort schedule' (.records out) criterion extractors).outcome st' = .ok out)
      ∧ (∀ value, ReadsAs extractors e.fields records value →
          (∀ f ∈ e.fields, Homogeneous (records.map (value · f))) →
          ∀ other, StablyOrders e.directions (decoratedAs value e records) other →
            (records.IsChain (InOrderBy value e) → other.map Decorated.record = records)
              ∧ ∀ again, StablyOrders e.directions
                  (decoratedAs value e (other.map Decorated.record)) again →
                again.map Decorated.record = other.map Decorated.record) := by
  refine ⟨fun value hreads => sort_of_inOrder s schedule hread hsource hworkers hreads st, ?_, ?_⟩
  · intro hproper out hout
    obtain ⟨decorated, hdecorate⟩ := exists_decorate_of_sort hread hsource hworkers hout
    have hreads := hdetermined.readsAs hdecorate
    have proper : ∀ r ∈ records, ∀ f ∈ e.fields, (valueFrom extractors st r f).isProper = true :=
      fun r hr f hf => hproper r hr f hf _ (hreads r hr f hf st)
    obtain ⟨perm, inOrder⟩ := sort_inOrder s schedule hread hsource hworkers hreads st proper hout
    have readsOut : ReadsAs extractors e.fields out (valueFrom extractors st) :=
      hreads.mono (fun _ hf => hf) (fun _ hr => perm.mem_iff.mp hr)
    exact (sort_of_inOrder s schedule' hread rfl hworkers readsOut st' inOrder).1
  · intro value hreads hkinds other stably
    obtain ⟨kind, kinds⟩ := exists_kind_of_fields hkinds
    have compares := comparesRecords_of_kinds kinds
    refine ⟨fun inOrder => stablyOrders_of_inOrder compares inOrder stably, fun again stably' => ?_⟩
    have perm := stably.perm.map Decorated.record
    rw [(decorates_decoratedAs value e records).records] at perm
    -- what compares the records compares them in any order
    have compares' : ComparesRecords value e (other.map Decorated.record)
        (compareRecords kind value e.keys) :=
      fun r hr r' hr' => compares r (perm.mem_iff.mp hr) r' (perm.mem_iff.mp hr')
    exact stablyOrders_of_inOrder compares' (stably.inOrder compares) stably'

/-- A record with a set of texts. -/
def setRecord (n : Nat) (members : List String) : Record :=
  ⟨n, .object [("a", .set (members.map .text))]⟩

/-- A set that includes another one, and a set that ties with both.  What the first sort
returns is in order, and so the second one asks about neighbours and moves nothing. -/
theorem sort_again_sets :
    (Sorter.standard.sort [] (.records [setRecord 0 ["x", "y"], setRecord 1 ["x"], setRecord 2 ["z"]])
        (.parsed soleA) ([] : Extractors Unit)).outcome ()
        = .ok [setRecord 1 ["x"], setRecord 0 ["x", "y"], setRecord 2 ["z"]]
      ∧ (Sorter.standard.sort [] (.records [setRecord 1 ["x"], setRecord 0 ["x", "y"], setRecord 2 ["z"]])
          (.parsed soleA) ([] : Extractors Unit)).outcome ()
          = .ok [setRecord 1 ["x"], setRecord 0 ["x", "y"], setRecord 2 ["z"]]
      ∧ Sorter.standard.questions []
          (.records [setRecord 1 ["x"], setRecord 0 ["x", "y"], setRecord 2 ["z"]]) (.parsed soleA)
          ([] : Extractors Unit) () = [(1, 0), (2, 1)] := by
  have reads : ∀ {records : List Record}, (∀ r ∈ records, ∃ n members, r = setRecord n members) →
      ReadsAs ([] : Extractors Unit) soleA.fields records attributeOf := by
    intro records h
    refine readsAs_attributeOf (fun _ _ => rfl) fun r hr => ?_
    obtain ⟨n, members, rfl⟩ := h r hr
    exact ⟨n, _, rfl, List.forall_mem_singleton.mpr rfl⟩
  have first : ReadsAs ([] : Extractors Unit) soleA.fields
      [setRecord 0 ["x", "y"], setRecord 1 ["x"], setRecord 2 ["z"]] attributeOf := reads (by simp)
  have second : ReadsAs ([] : Extractors Unit) soleA.fields
      [setRecord 1 ["x"], setRecord 0 ["x", "y"], setRecord 2 ["z"]] attributeOf := reads (by simp)
  have proper : ∀ r ∈ [setRecord 0 ["x", "y"], setRecord 1 ["x"], setRecord 2 ["z"]],
      ∀ f ∈ soleA.fields, ∀ v,
        ((Accessor.forField ([] : Extractors Unit) f).read r).outcome () = .ok v →
        v.isProper = true := by
    intro r hr f hf v hv
    obtain rfl := Except.ok.inj ((first r hr f hf ()).symm.trans hv)
    obtain rfl : f = "a" := List.mem_singleton.mp hf
    simp only [List.mem_cons, List.not_mem_nil, or_false] at hr
    rcases hr with rfl | rfl | rfl <;> decide
  have sortedOnce : (Sorter.standard.sort []
      (.records [setRecord 0 ["x", "y"], setRecord 1 ["x"], setRecord 2 ["z"]]) (.parsed soleA)
      ([] : Extractors Unit)).outcome ()
      = .ok [setRecord 1 ["x"], setRecord 0 ["x", "y"], setRecord 2 ["z"]] := by
    rw [sort_of_decorate (e := soleA) rfl rfl Sorter.isConcurrent_standard
      (decorate_of_readsAs first false [] ())]
    rfl
  have inOrder : [setRecord 1 ["x"], setRecord 0 ["x", "y"], setRecord 2 ["z"]].IsChain
      (InOrderBy attributeOf soleA) := by
    refine List.isChain_cons_cons.mpr ⟨⟨.gt, rfl, Ordering.noConfusion⟩, ?_⟩
    exact List.isChain_cons_cons.mpr ⟨⟨.eq, rfl, Ordering.noConfusion⟩, List.isChain_singleton _⟩
  obtain ⟨_, again, _⟩ := sort_again Sorter.standard [] [] (.records _) (.parsed soleA)
    ([] : Extractors Unit) () () rfl rfl Sorter.isConcurrent_standard first.determinedOn
  obtain ⟨unmoved, _, _⟩ := sort_again Sorter.standard [] [] (.records _) (.parsed soleA)
    ([] : Extractors Unit) () () rfl rfl Sorter.isConcurrent_standard second.determinedOn
  exact ⟨sortedOnce, again proper _ sortedOnce, (unmoved attributeOf second inOrder).2.2⟩

end OrderBy
